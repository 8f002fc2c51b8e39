import ShaderSynth.FileTree
import ShaderSynth.Proofs.Fallible

/-!
# What operations on files leave alone

`Changes` bounds what an operation may have done to a tree: directories stay,
and what was found anywhere but at a few places is found there still.  Paths
that led somewhere therefore lead there still, and files that are not among
the places keep their content.
-/

namespace ShaderSynth.FileTree

/-- Directories stay. -/
def Keeps (before after : FileTree) : Prop :=
  ∀ ⦃place⦄, before.get? place = some .directory →
    after.get? place = some .directory

theorem Keeps.refl (tree : FileTree) : Keeps tree tree :=
  fun _ found => found

theorem Keeps.trans
    {before middle after : FileTree}
    (left : Keeps before middle) (right : Keeps middle after) :
    Keeps before after :=
  fun _ found => right (left found)

/-- Only these places may hold something else, and directories stay. -/
structure Changes (touched : List Place) (before after : FileTree) : Prop where
  directories : Keeps before after
  others :
    ∀ {place node}, place ∉ touched → before.get? place = some node →
      after.get? place = some node

theorem Changes.refl (tree : FileTree) : Changes [] tree tree where
  directories := .refl tree
  others := fun _ found => found

theorem Changes.trans
    {first second : List Place} {before middle after : FileTree}
    (left : Changes first before middle)
    (right : Changes second middle after) :
    Changes (first ++ second) before after where
  directories := left.directories.trans right.directories
  others := by
    intro place node untouched found
    rw [List.mem_append, not_or] at untouched
    exact right.others untouched.2 (left.others untouched.1 found)

theorem Changes.mono
    {fewer more : List Place} {before after : FileTree}
    (changes : Changes fewer before after) (subset : fewer ⊆ more) :
    Changes more before after where
  directories := changes.directories
  others := fun untouched found =>
    changes.others (fun member => untouched (subset member)) found

theorem changes_set
    {tree : FileTree} {place : Place} (node : Node)
    (free : tree.get? place ≠ some .directory) :
    Changes [place] tree (tree.set place node) where
  directories := by
    intro other found
    have different : other ≠ place := by
      rintro rfl
      exact free found
    rw [get?_set_of_ne _ _ different, found]
  others := by
    intro other found untouched old
    rw [get?_set_of_ne _ _ (List.ne_of_not_mem_cons untouched), old]

theorem changes_erase
    {tree : FileTree} {place : Place}
    (free : tree.get? place ≠ some .directory) :
    Changes [place] tree (tree.erase place) where
  directories := by
    intro other found
    have different : other ≠ place := by
      rintro rfl
      exact free found
    rw [get?_erase_of_ne _ different, found]
  others := by
    intro other found untouched old
    rw [get?_erase_of_ne _ (List.ne_of_not_mem_cons untouched), old]

/-! ## Where paths lead -/

/-- Follows names from the root. -/
def follow (tree : FileTree) (path : Path) : Except FileError Place :=
  path.foldlM tree.step []

theorem locate_eq_ok_iff
    {tree : FileTree} {path : Path} {place : Place} :
    tree.locate path = .ok place ↔
      path.flaw? = none ∧ tree.follow path = .ok place := by
  unfold locate follow
  cases path.flaw? <;> simp

theorem Keeps.step
    {before after : FileTree} {place next : Place} {name : String}
    (keeps : Keeps before after)
    (found : before.step place name = .ok next) :
    after.step place name = .ok next := by
  unfold FileTree.step at found ⊢
  split at found
  · cases found
  · cases found
  · rename_i directory
    rw [keeps directory]
    exact found

/-- A path leads to where it led. -/
theorem Keeps.follow
    {before after : FileTree} {path : Path} {place : Place}
    (keeps : Keeps before after)
    (found : before.follow path = .ok place) :
    after.follow path = .ok place := by
  unfold FileTree.follow at found ⊢
  generalize ([] : Place) = start at found ⊢
  induction path generalizing start with
  | nil => exact found
  | cons name rest ih =>
      rw [List.foldlM_cons] at found ⊢
      obtain ⟨next, first, others⟩ := bind_eq_ok_iff.mp found
      rw [keeps.step first]
      exact ih next others

theorem Keeps.locate
    {before after : FileTree} {path : Path} {place : Place}
    (keeps : Keeps before after)
    (found : before.locate path = .ok place) :
    after.locate path = .ok place := by
  rw [locate_eq_ok_iff] at found ⊢
  exact ⟨found.1, keeps.follow found.2⟩

theorem Changes.follow
    {touched : List Place} {before after : FileTree} {path : Path}
    {place : Place}
    (changes : Changes touched before after)
    (found : before.follow path = .ok place) :
    after.follow path = .ok place :=
  changes.directories.follow found

theorem Changes.locate
    {touched : List Place} {before after : FileTree} {path : Path}
    {place : Place}
    (changes : Changes touched before after)
    (found : before.locate path = .ok place) :
    after.locate path = .ok place :=
  changes.directories.locate found

/-- A name of something in a directory. -/
def IsPlain (name : String) : Prop :=
  name ≠ "." ∧ name ≠ ".."

theorem follow_append
    {tree : FileTree} {path names : Path} {place : Place}
    (plain : ∀ name ∈ names, IsPlain name)
    (found : tree.follow (path ++ names) = .ok place) :
    ∃ home, tree.follow path = .ok home ∧ place = home ++ names := by
  unfold follow at found ⊢
  rw [List.foldlM_append] at found
  obtain ⟨home, reached, below⟩ := bind_eq_ok_iff.mp found
  refine ⟨home, reached, ?_⟩
  clear found reached
  induction names generalizing home with
  | nil => simpa using (Except.ok.inj below).symm
  | cons name rest ih =>
      rw [List.foldlM_cons] at below
      obtain ⟨next, first, others⟩ := bind_eq_ok_iff.mp below
      obtain ⟨here, up⟩ := plain name (by simp)
      have entered : next = home ++ [name] := by
        unfold FileTree.step at first
        split at first
        · cases first
        · cases first
        · rw [if_neg here, if_neg up] at first
          split at first
          · cases first
          · exact (Except.ok.inj first).symm
      have rested :=
        ih (fun other member => plain other (by simp [member])) next others
      rw [rested, entered, List.append_assoc, List.singleton_append]

/-- Where a path with names below it leads. -/
theorem locate_append
    {tree : FileTree} {path names : Path} {place : Place}
    (plain : ∀ name ∈ names, IsPlain name)
    (found : tree.locate (path ++ names) = .ok place) :
    ∃ home, tree.follow path = .ok home ∧ place = home ++ names :=
  follow_append plain (locate_eq_ok_iff.mp found).2

/-! ## Files -/

theorem read_eq_ok_iff
    {tree : FileTree} {path : Path} {bytes : List UInt8} :
    tree.read path = .ok bytes ↔
      ∃ place,
        tree.locate path = .ok place ∧
          tree.get? place = some (.file bytes) := by
  unfold read
  constructor
  · intro content
    obtain ⟨place, found, rest⟩ := bind_eq_ok_iff.mp content
    refine ⟨place, found, ?_⟩
    split at rest
    · cases rest
    · cases rest
    · cases rest
      assumption
  · rintro ⟨place, found, content⟩
    simp [found, content, bind, Except.bind]

/-- A file that is not touched keeps its content. -/
theorem Changes.read
    {touched : List Place} {before after : FileTree} {path : Path}
    {bytes : List UInt8}
    (changes : Changes touched before after)
    (untouched : ∀ {place}, before.locate path = .ok place → place ∉ touched)
    (content : before.read path = .ok bytes) :
    after.read path = .ok bytes := by
  obtain ⟨place, found, file⟩ := read_eq_ok_iff.mp content
  exact read_eq_ok_iff.mpr
    ⟨place, changes.locate found, changes.others (untouched found) file⟩

/-- A file that is written has the content, and is all that changes. -/
theorem write_spec
    {tree after : FileTree} {path : Path} {bytes : List UInt8}
    (done : tree.write path bytes = .ok after) :
    ∃ place,
      tree.locate path = .ok place ∧
        Changes [place] tree after ∧ after.read path = .ok bytes := by
  unfold write at done
  obtain ⟨place, found, rest⟩ := bind_eq_ok_iff.mp done
  have free : tree.get? place ≠ some .directory := by
    intro directory
    simp [directory] at rest
  have written : after = tree.set place (.file bytes) := by
    split at rest
    · cases rest
    · exact (unlessRefused_eq_ok_iff.mp rest).2
  have changes : Changes [place] tree after :=
    written ▸ changes_set (.file bytes) free
  have below : place ≠ [] := by
    rintro rfl
    exact free tree.get?_root
  refine ⟨place, found, changes, ?_⟩
  refine read_eq_ok_iff.mpr ⟨place, changes.locate found, ?_⟩
  rw [written, get?_set_self _ _ below]

theorem remove_spec
    {tree after : FileTree} {path : Path}
    (done : tree.remove path = .ok after) :
    ∃ place, tree.locate path = .ok place ∧ Changes [place] tree after := by
  unfold remove at done
  obtain ⟨place, found, rest⟩ := bind_eq_ok_iff.mp done
  refine ⟨place, found, ?_⟩
  split at rest
  · cases rest
  · cases rest
  · rename_i bytes file
    rw [(unlessRefused_eq_ok_iff.mp rest).2]
    exact changes_erase (by simp [file])

/-- A file that is moved has its content at the target. -/
theorem rename_spec
    {tree after : FileTree} {source target : Path} {bytes : List UInt8}
    (content : tree.read source = .ok bytes)
    (done : tree.rename source target = .ok after) :
    ∃ old new,
      tree.locate source = .ok old ∧
        after.locate target = .ok new ∧
        Changes [old, new] tree after ∧ after.read target = .ok bytes := by
  unfold rename at done
  obtain ⟨found, read, rest⟩ := bind_eq_ok_iff.mp done
  obtain ⟨removed, gone, written⟩ := bind_eq_ok_iff.mp rest
  obtain rfl : found = bytes := by
    rw [content] at read
    exact (Except.ok.inj read).symm
  obtain ⟨old, located, first⟩ := remove_spec gone
  obtain ⟨new, reached, second, kept⟩ := write_spec written
  exact ⟨old, new, located, second.locate reached, first.trans second, kept⟩

/-! ## Directories -/

theorem makeDirectory_changes
    {tree after : FileTree} {path : Path}
    (done : tree.makeDirectory path = .ok after) :
    Changes [] tree after := by
  unfold makeDirectory at done
  obtain ⟨place, -, rest⟩ := bind_eq_ok_iff.mp done
  split at rest
  · rename_i nothing
    have free : tree.get? place ≠ some .directory := by simp [nothing]
    have changes := changes_set .directory free
    rw [(unlessRefused_eq_ok_iff.mp rest).2]
    refine ⟨changes.directories, ?_⟩
    intro other node _ found
    refine changes.others ?_ found
    intro member
    rw [List.mem_singleton.mp member, nothing] at found
    cases found
  · rw [← Except.ok.inj rest]
    exact .refl tree
  · cases rest

/-- What making one directory keeps is kept when many are made. -/
theorem makeEach_invariant
    (property : FileTree → Prop)
    (kept :
      ∀ {tree later path},
        tree.makeDirectory path = .ok later → property tree → property later)
    {tree : FileTree} (holds : property tree) (paths : List Path) :
    property (tree.makeEach paths).2 := by
  induction paths generalizing tree with
  | nil => exact holds
  | cons path rest ih =>
      unfold makeEach
      split
      · exact holds
      · rename_i done
        exact ih (kept done holds)

theorem makeEach_changes (tree : FileTree) (paths : List Path) :
    Changes [] tree (tree.makeEach paths).2 :=
  makeEach_invariant (Changes [] tree)
    (fun done changes => changes.trans (makeDirectory_changes done))
    (.refl tree) paths

theorem makeDirectories_changes (tree : FileTree) (path : Path) :
    Changes [] tree (tree.makeDirectories path).2 := by
  unfold makeDirectories
  split
  · exact .refl tree
  · exact makeEach_changes _ _

end ShaderSynth.FileTree
