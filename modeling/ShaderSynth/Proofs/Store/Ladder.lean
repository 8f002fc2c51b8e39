import Mathlib.Data.List.Induction
import ShaderSynth.Proofs.FileTree.Actions
import ShaderSynth.Proofs.Store.Files

/-!
# Directories that entries share

The directories of an entry are made from the root down, and all but the last
of them are the same for all entries.  So tasks that save different entries
do not get into each other's way: they make the same directories, or work in
different places below them.  `Proper` says what such a task may do at a time,
and what is proper for different entries commutes.
-/

namespace ShaderSynth

open FileTree

/-! ## Paths and their ancestors -/

namespace Path

theorem ancestors_concat (path : Path) (name : String) :
    ancestors (path ++ [name]) = ancestors path ++ [path] := by
  unfold ancestors
  rw [List.length_append, List.length_singleton, List.range_succ,
    List.map_append]
  congr 1
  · apply List.map_congr_left
    intro count member
    rw [List.take_append_of_le_length
      (Nat.le_of_lt (List.mem_range.mp member))]
  · simp

theorem append_of_mem_ancestors
    {part path : Path} (member : part ∈ ancestors path ++ [path]) :
    ∃ rest, path = part ++ rest := by
  rcases List.mem_append.mp member with above | last
  · obtain ⟨count, -, rfl⟩ := List.mem_map.mp above
    exact ⟨path.drop count, (List.take_append_drop count path).symm⟩
  · rw [List.mem_singleton.mp last]
    exact ⟨[], (List.append_nil path).symm⟩

theorem size_cons (name : String) (path : Path) :
    size (name :: path) = 1 + name.utf8ByteSize + size path := by
  have shift (start : Nat) :
      path.foldl (fun total name => total + 1 + name.utf8ByteSize) start =
        start + size path := by
    unfold size
    induction path generalizing start with
    | nil => rfl
    | cons next rest ih =>
        rw [List.foldl_cons, List.foldl_cons, ih, ih (0 + 1 + _)]
        omega
  rw [size, List.foldl_cons, shift]

theorem size_le_of_sublist {part path : Path} (sublist : part.Sublist path) :
    size part ≤ size path := by
  induction sublist with
  | slnil => exact Nat.le_refl _
  | cons name _ ih =>
      rw [size_cons]
      omega
  | cons_cons name _ ih =>
      rw [size_cons, size_cons]
      omega

/-- What is fine with a path is fine with a part of it. -/
theorem flaw?_of_sublist
    {part path : Path} (sublist : part.Sublist path)
    (fine : path.flaw? = none) :
    part.flaw? = none := by
  unfold flaw? at fine ⊢
  split at fine
  · cases fine
  · rename_i named
    split at fine
    · cases fine
    · rename_i short
      have size := size_le_of_sublist sublist
      rw [if_neg, if_neg]
      · omega
      · intro ended
        apply named
        rw [List.any_eq_true] at ended ⊢
        obtain ⟨name, member, ends⟩ := ended
        exact ⟨name, sublist.subset member, ends⟩

end Path

namespace FileTree

theorem foldlM_step_of_ne
    {tree : FileTree} {start : Place}
    (missing : tree.get? start ≠ some .directory) (name : String)
    (first second : Path) :
    (name :: first).foldlM tree.step start =
      ("." :: second).foldlM tree.step start := by
  rw [List.foldlM_cons, List.foldlM_cons]
  unfold step
  cases content : tree.get? start with
  | none => rfl
  | some node =>
      cases node with
      | directory => exact absurd content missing
      | file bytes => rfl

theorem foldlM_step_plain
    (tree : FileTree) (path : Path) (name : String) (start : Place) :
    (path ++ [name]).foldlM tree.step start =
      (path.plain ++ [name]).foldlM tree.step start := by
  induction path generalizing start with
  | nil => rfl
  | cons next rest ih =>
      by_cases here : next = "."
      · have shorter : Path.plain (next :: rest) = Path.plain rest := by
          simp [Path.plain, here]
        rw [shorter, ← ih, here, List.cons_append]
        by_cases standing : tree.get? start = some .directory
        · have stays : tree.step start "." = .ok start := by
            simp [step, standing]
          rw [List.foldlM_cons, stays]
          rfl
        · cases rest with
          | nil => exact (foldlM_step_of_ne standing _ _ _).symm
          | cons other others => exact (foldlM_step_of_ne standing _ _ _).symm
      · have longer : Path.plain (next :: rest) = next :: Path.plain rest := by
          simp [Path.plain, here]
        rw [longer, List.cons_append, List.cons_append, List.foldlM_cons,
          List.foldlM_cons]
        congr 1
        funext place
        exact ih place

/-- Names that stay in a directory make no difference before another name. -/
theorem follow_plain
    (tree : FileTree) (path : Path) (name : String) :
    tree.follow (path ++ [name]) = tree.follow (path.plain ++ [name]) :=
  foldlM_step_plain tree path name []

/-- A path that goes on from another needs a directory there. -/
theorem stands_of_follow
    {tree : FileTree} {path : Path} {name : String} {rest : Path}
    {place : Place}
    (fine : path.flaw? = none)
    (found : tree.follow (path ++ name :: rest) = .ok place) :
    tree.Stands path := by
  unfold follow at found
  rw [List.foldlM_append] at found
  obtain ⟨above, reached, below⟩ := bind_eq_ok_iff.mp found
  rw [List.foldlM_cons] at below
  obtain ⟨next, first, -⟩ := bind_eq_ok_iff.mp below
  refine ⟨above, locate_eq_ok_iff.mpr ⟨fine, reached⟩, ?_⟩
  unfold step at first
  split at first
  · cases first
  · cases first
  · assumption

end FileTree

namespace Store

/-! ## The directories of an entry -/

/-- Where the directory of an entry is. -/
def directoryPath (base : String) (digest : UInt64) : Path :=
  pathBelow base (directoryNames digest)

/-- Where an entry is. -/
def entryPath (base : String) (digest : UInt64) : Path :=
  pathBelow base (entryNames digest)

/-- Where the temporary file of an entry is. -/
def temporaryPath (base : String) (digest : UInt64) : Path :=
  pathBelow base (temporaryNames digest)

/-- The directories to make for an entry, from the root down. -/
def rungs (base : String) (digest : UInt64) : List Path :=
  let path := directoryPath base digest
  if path.flaw?.isSome then [path] else path.plain.ancestors ++ [path]

/-- The directories that all entries share. -/
def sharedRungs (base : String) : List Path :=
  let path := (Path.ofText base).plain ++ ["shaders"]
  path.ancestors ++ [path]

variable {base : String} {digest : UInt64} {tree : FileTree}

theorem plain_directoryPath (base : String) (digest : UInt64) :
    (directoryPath base digest).plain =
      (Path.ofText base).plain ++ directoryNames digest := by
  have moves := lower_isPlain 4 (digest.toNat / lowRange)
  simp [directoryPath, pathBelow, directoryNames, Path.plain,
    shaders_isPlain.1, moves.1]

theorem rungs_of_fine (fine : (directoryPath base digest).flaw? = none) :
    rungs base digest = sharedRungs base ++ [directoryPath base digest] := by
  have split :
      (Path.ofText base).plain ++ directoryNames digest =
        ((Path.ofText base).plain ++ ["shaders"]) ++
          [Hex.lower 4 (digest.toNat / lowRange)] := by
    simp [directoryNames]
  rw [rungs, plain_directoryPath, split, Path.ancestors_concat, fine,
    sharedRungs]
  rfl

theorem rungs_of_flaw
    {problem : FileError}
    (flaw : (directoryPath base digest).flaw? = some problem) :
    rungs base digest = [directoryPath base digest] := by
  simp [rungs, flaw]

theorem directoryPath_mem_rungs (base : String) (digest : UInt64) :
    directoryPath base digest ∈ rungs base digest := by
  unfold rungs
  dsimp only
  split <;> simp

/-- Each of the paths but the root has the one above it before it. -/
def Climbs (paths : List Path) : Prop :=
  ∀ ⦃made path rest⦄, paths = made ++ path :: rest →
    path = [] ∨ ∃ parent ∈ made, Under parent path

theorem Climbs.concat
    {paths : List Path} {parent path : Path}
    (climbs : Climbs paths) (member : parent ∈ paths)
    (under : Under parent path) :
    Climbs (paths ++ [path]) := by
  intro made next rest split
  rcases List.eq_nil_or_concat rest with rfl | ⟨others, last, rfl⟩
  · obtain ⟨rfl, same⟩ := List.append_inj' split rfl
    obtain rfl : path = next := by simpa using same
    exact .inr ⟨parent, member, under⟩
  · rw [List.concat_eq_append, ← List.cons_append, ← List.append_assoc]
      at split
    exact climbs (List.append_inj' split rfl).1

theorem climbs_ancestors (path : Path) : Climbs (path.ancestors ++ [path]) := by
  induction path using List.reverseRecOn with
  | nil =>
      intro made next rest split
      left
      have member : next ∈ Path.ancestors [] ++ [[]] := by simp [split]
      simpa [Path.ancestors] using member
  | append_singleton above name ih =>
      rw [Path.ancestors_concat]
      exact ih.concat (by simp) (under_append above name)

theorem follow_directoryPath
    (base : String) (digest : UInt64) (tree : FileTree) :
    tree.follow (directoryPath base digest) =
      tree.follow ((Path.ofText base).plain ++ directoryNames digest) := by
  have split :
      directoryPath base digest =
        (Path.ofText base ++ ["shaders"]) ++
          [Hex.lower 4 (digest.toNat / lowRange)] := by
    simp [directoryPath, pathBelow, directoryNames]
  have plain :
      Path.plain (Path.ofText base ++ ["shaders"]) =
        (Path.ofText base).plain ++ ["shaders"] := by
    simp [Path.plain, shaders_isPlain.1]
  rw [split, follow_plain, plain, directoryNames, List.append_assoc]
  rfl

theorem under_directoryPath (base : String) (digest : UInt64) :
    Under ((Path.ofText base).plain ++ ["shaders"])
      (directoryPath base digest) := by
  obtain ⟨next, entered⟩ :=
    under_append ((Path.ofText base).plain ++ ["shaders"])
      (Hex.lower 4 (digest.toNat / lowRange))
  refine ⟨next, fun tree => ?_⟩
  rw [follow_directoryPath, ← entered, directoryNames, List.append_assoc]
  rfl

theorem climbs_rungs (fine : (directoryPath base digest).flaw? = none) :
    Climbs (rungs base digest) := by
  rw [rungs_of_fine fine]
  apply (climbs_ancestors _).concat _ (under_directoryPath base digest)
  simp

/-- A directory to make is settled once those before it are there. -/
theorem settled_of_rungs
    {made rest : List Path} {path : Path}
    (split : rungs base digest = made ++ path :: rest)
    (standing : ∀ rung ∈ made, tree.Stands rung) :
    tree.Settled path := by
  cases flaw : (directoryPath base digest).flaw? with
  | some problem =>
      rw [rungs_of_flaw flaw] at split
      have member : path ∈ [directoryPath base digest] := by simp [split]
      rw [List.mem_singleton.mp member]
      exact settled_of_flaw tree flaw
  | none =>
      rcases climbs_rungs flaw split with rfl | ⟨parent, member, under⟩
      · exact settled_root tree
      · exact settled_of_stands under (standing parent member)

/-! ## Entries whose directories are there -/

/-- The directories of an entry are there. -/
def Ready (base : String) (tree : FileTree) (digest : UInt64) : Prop :=
  ∀ path ∈ rungs base digest, tree.Stands path

theorem Ready.keeps
    {later : FileTree} (ready : Ready base tree digest)
    (keeps : Keeps tree later) :
    Ready base later digest :=
  fun path member => (ready path member).keeps keeps

theorem Ready.rungs_eq (ready : Ready base tree digest) :
    rungs base digest = sharedRungs base ++ [directoryPath base digest] := by
  obtain ⟨place, found, -⟩ := ready _ (directoryPath_mem_rungs base digest)
  exact rungs_of_fine (locate_eq_ok_iff.mp found).1

theorem Ready.stands_shared
    {path : Path} (ready : Ready base tree digest)
    (member : path ∈ sharedRungs base) :
    tree.Stands path := by
  apply ready
  rw [ready.rungs_eq]
  exact List.mem_append_left _ member

/-- The files of an entry. -/
def filePaths (base : String) (digest : UInt64) : List Path :=
  [temporaryPath base digest, entryPath base digest]

theorem Ready.settled
    {path : Path} (ready : Ready base tree digest)
    (member : path ∈ filePaths base digest) :
    tree.Settled path := by
  have stands := ready _ (directoryPath_mem_rungs base digest)
  simp only [filePaths, List.mem_cons, List.not_mem_nil, or_false] at member
  rcases member with rfl | rfl
  · rw [temporaryPath, pathBelow, temporaryNames, ← List.append_assoc]
    exact settled_of_stands (under_append _ _) stands
  · rw [entryPath, pathBelow, entryNames, ← List.append_assoc]
    exact settled_of_stands (under_append _ _) stands

/-- A file that can be reached has its directories. -/
theorem ready_of_locate
    {place : Place} (found : tree.locate (entryPath base digest) = .ok place) :
    Ready base tree digest := by
  obtain ⟨fine, reached⟩ := locate_eq_ok_iff.mp found
  have split :
      entryPath base digest =
        directoryPath base digest ++ [fileName digest] := by
    simp [entryPath, directoryPath, pathBelow, entryNames]
  rw [split] at fine reached
  have above : (directoryPath base digest).flaw? = none :=
    Path.flaw?_of_sublist (List.sublist_append_left _ _) fine
  intro path member
  rw [rungs_of_fine above] at member
  rcases List.mem_append.mp member with shared | last
  · obtain ⟨rest, shaders⟩ := Path.append_of_mem_ancestors shared
    have below :
        (directoryPath base digest).plain =
          path ++ (rest ++ [Hex.lower 4 (digest.toNat / lowRange)]) := by
      rw [plain_directoryPath, ← List.append_assoc, ← shaders]
      simp [directoryNames]
    have part : path.Sublist (directoryPath base digest) := by
      have whole :
          (directoryPath base digest).plain.Sublist
            (directoryPath base digest) :=
        List.filter_sublist
      rw [below] at whole
      exact (List.sublist_append_left _ _).trans whole
    rw [follow_plain, below, List.append_assoc, List.append_assoc] at reached
    cases rest with
    | nil => exact stands_of_follow (Path.flaw?_of_sublist part above) reached
    | cons next others =>
        exact stands_of_follow (Path.flaw?_of_sublist part above) reached
  · rw [List.mem_singleton.mp last]
    exact stands_of_follow above reached

/-- Removing an entry is an action, even if it fails. -/
theorem after_drop_entry (base : String) (digest : UInt64) (tree : FileTree) :
    (Action.drop (entryPath base digest)).after tree =
      match remove base digest tree with
      | .ok later => later
      | .error _ => tree := by
  unfold Action.after Action.run remove entryPath
  dsimp only
  cases tree.remove (pathBelow base (entryNames digest)) with
  | ok later => rfl
  | error problem => cases problem <;> rfl

theorem ready_of_load
    {stamp : Stamp} {entry : Entry}
    (loaded : load base digest stamp tree = .ok entry) :
    Ready base tree digest := by
  unfold load at loaded
  split at loaded
  · cases loaded
  · rename_i bytes content
    obtain ⟨place, found, -⟩ := read_eq_ok_iff.mp content
    exact ready_of_locate found

theorem Staging.ready_add
    {stamp : Stamp} {staging : Staging}
    (ready : ∀ item ∈ staging.staged, Ready base staging.tree item.1)
    (digest : UInt64) :
    ∀ item ∈ (staging.add base stamp digest).staged,
      Ready base (staging.add base stamp digest).tree item.1 := by
  unfold Staging.add
  split
  · exact ready
  · split
    · rename_i entry loaded
      intro item member
      rcases List.mem_append.mp member with earlier | last
      · exact ready item earlier
      · rw [List.mem_singleton.mp last]
        exact ready_of_load loaded
    · intro item member
      have kept :=
        (ready item member).keeps
          ((Action.drop (entryPath base digest)).keeps_after staging.tree)
      rw [after_drop_entry] at kept
      exact kept

/-- Entries that were loaded have their directories. -/
theorem ready_of_preload (base : String) (stamp : Stamp) (tree : FileTree) :
    ∀ item ∈ (preload base stamp tree).staged,
      Ready base (preload base stamp tree).tree item.1 := by
  unfold preload
  split
  · simp
  · rename_i digests listed
    have folded (staging : Staging)
        (ready : ∀ item ∈ staging.staged, Ready base staging.tree item.1) :
        ∀ item ∈ (digests.foldl (Staging.add base stamp) staging).staged,
          Ready base (digests.foldl (Staging.add base stamp) staging).tree
            item.1 := by
      clear listed
      induction digests generalizing staging with
      | nil => exact ready
      | cons digest rest ih => exact ih _ (staging.ready_add ready digest)
    exact folded ⟨[], 0, tree⟩ (by simp)

/-! ## Places of different entries -/

theorem temporaryNames_injective : Function.Injective temporaryNames := by
  intro left right same
  apply entryNames_injective
  simp only [temporaryNames, directoryNames, List.cons_append, List.nil_append,
    List.cons.injEq, true_and, and_true] at same
  have files : fileName left = fileName right := by
    have letters := congrArg String.toList same.2
    rw [String.toList_append, String.toList_append] at letters
    exact String.toList_injective (List.append_cancel_right letters)
  simp only [entryNames, directoryNames, same.1, files]

/-- Different names below the base lead to different places. -/
theorem apart_below
    {names others : List String} {place : Place}
    (plain : ∀ name ∈ names, IsPlain name)
    (simple : ∀ name ∈ others, IsPlain name)
    (different : names ≠ others)
    (found : tree.locate (pathBelow base names) = .ok place) :
    tree.locate (pathBelow base others) ≠ .ok place := by
  intro reached
  obtain ⟨home, led, rfl⟩ := locate_append plain found
  obtain ⟨same, leads, joined⟩ := locate_append simple reached
  rw [led] at leads
  cases leads
  exact different (List.append_cancel_left joined)

theorem directoryNames_isPlain (digest : UInt64) :
    ∀ name ∈ directoryNames digest, IsPlain name := by
  simp [directoryNames, shaders_isPlain, lower_isPlain]

/-- The names on the way to the files of an entry. -/
theorem names_of_mem_filePaths
    {path : Path} (member : path ∈ filePaths base digest) :
    ∃ names,
      path = pathBelow base names ∧ (∀ name ∈ names, IsPlain name) ∧
        (names = temporaryNames digest ∨ names = entryNames digest) := by
  simp only [filePaths, List.mem_cons, List.not_mem_nil, or_false] at member
  rcases member with rfl | rfl
  · exact ⟨_, rfl, temporaryNames_isPlain digest, .inl rfl⟩
  · exact ⟨_, rfl, entryNames_isPlain digest, .inr rfl⟩

theorem apart_files
    {other : UInt64} {path rival : Path} {place : Place}
    (different : digest ≠ other)
    (mine : path ∈ filePaths base digest)
    (theirs : rival ∈ filePaths base other)
    (found : tree.locate path = .ok place) :
    tree.locate rival ≠ .ok place := by
  obtain ⟨names, rfl, plain, own⟩ := names_of_mem_filePaths mine
  obtain ⟨others, rfl, simple, foreign⟩ := names_of_mem_filePaths theirs
  apply apart_below plain simple _ found
  rintro rfl
  rcases own with rfl | rfl
  · rcases foreign with same | same
    · exact different (temporaryNames_injective same)
    · exact entryNames_ne_temporaryNames other digest same.symm
  · rcases foreign with same | same
    · exact entryNames_ne_temporaryNames digest other same
    · exact different (entryNames_injective same)

theorem apart_directory_file
    {other : UInt64} {path : Path} {place : Place}
    (member : path ∈ filePaths base other)
    (found : tree.locate (directoryPath base digest) = .ok place) :
    tree.locate path ≠ .ok place := by
  obtain ⟨names, rfl, plain, own⟩ := names_of_mem_filePaths member
  apply apart_below (directoryNames_isPlain digest) plain _ found
  rintro rfl
  rcases own with same | same
  · have length := congrArg List.length same
    simp [directoryNames, temporaryNames] at length
  · have length := congrArg List.length same
    simp [directoryNames, entryNames] at length

/-! ## What a task may do -/

/-- Not all directories of an entry can be made. -/
def Blocked (base : String) (tree : FileTree) (digest : UInt64) : Prop :=
  ∃ path ∈ rungs base digest,
    tree.Settled path ∧ (Action.make path).succeeds tree = false

/-- The directories stay blocked where the next of them was refused. -/
theorem blocked_after_make
    {made rest : List Path} {path : Path}
    (split : rungs base digest = made ++ path :: rest)
    (standing : ∀ rung ∈ made, tree.Stands rung)
    (refused : (Action.make path).succeeds tree = false) :
    Blocked base ((Action.make path).after tree) digest := by
  have settled := settled_of_rungs split standing
  have keeps := (Action.make path).keeps_after tree
  refine ⟨path, by simp [split], settled.keeps keeps, ?_⟩
  rw [(Action.alike_of_fails refused).succeeds, refused]

/-- What may be done on behalf of an entry. -/
inductive Proper (base : String) (tree : FileTree) (digest : UInt64) :
    Action → Prop where
  /-- Making the next of its directories. -/
  | make
      {made rest : List Path} {path : Path}
      (split : rungs base digest = made ++ path :: rest)
      (standing : ∀ rung ∈ made, tree.Stands rung) :
      Proper base tree digest (.make path)
  /-- Anything with its files, once the directories are there. -/
  | file
      {action : Action}
      (ready : Ready base tree digest)
      (own : action.paths ⊆ filePaths base digest) :
      Proper base tree digest action
  /-- Removing it if the directories cannot be made. -/
  | undo (blocked : Blocked base tree digest) :
      Proper base tree digest (.drop (entryPath base digest))

/-- Nothing is found below directories that cannot be made. -/
theorem Blocked.edits?_drop (blocked : Blocked base tree digest) :
    (Action.drop (entryPath base digest)).edits? tree = none := by
  cases found : tree.locate (entryPath base digest) with
  | error problem =>
      exact Action.edits?_of_unwanted (by simp only [Action.wanted?, found])
  | ok place =>
      obtain ⟨path, member, -, fails⟩ := blocked
      have stands := ready_of_locate found path member
      rw [Action.succeeds_eq, stands.edits?_make] at fails
      cases fails

variable (tree) in
/-- Where the next directory to make is among those that entries share. -/
theorem next_rung
    {made rest : List Path} {path : Path}
    (split : rungs base digest = made ++ path :: rest) :
    (∃ problem, tree.locate path = .error problem) ∨
      (∃ others, sharedRungs base = made ++ path :: others) ∨
        made = sharedRungs base ∧ path = directoryPath base digest := by
  cases flaw : (directoryPath base digest).flaw? with
  | some problem =>
      left
      rw [rungs_of_flaw flaw] at split
      have member : path ∈ [directoryPath base digest] := by simp [split]
      rw [List.mem_singleton.mp member]
      exact ⟨problem, by simp [locate, flaw]⟩
  | none =>
      right
      rw [rungs_of_fine flaw] at split
      rcases List.eq_nil_or_concat rest with rfl | ⟨others, last, rfl⟩
      · right
        obtain ⟨rfl, same⟩ := List.append_inj' split rfl
        exact ⟨rfl, by simpa using same.symm⟩
      · left
        rw [List.concat_eq_append, ← List.cons_append, ← List.append_assoc]
          at split
        exact ⟨others, (List.append_inj' split rfl).1⟩

/-! ## Tasks do not get into each other's way -/

variable {other : UInt64} {action rival : Action}

theorem mem_or_eq_of_split
    {paths made beyond rest others : List Path} {path next : Path}
    (left : paths = made ++ path :: rest)
    (right : paths = beyond ++ next :: others) :
    path ∈ beyond ∨ path = next ∨ next ∈ made := by
  rw [left] at right
  rcases List.append_eq_append_iff.mp right with
    ⟨between, rfl, tail⟩ | ⟨between, rfl, tail⟩
  · cases between with
    | nil => exact .inr (.inl (List.cons.inj tail).1)
    | cons head _ =>
        left
        rw [(List.cons.inj tail).1]
        simp
  · cases between with
    | nil => exact .inr (.inl (List.cons.inj tail).1.symm)
    | cons head _ =>
        right
        right
        rw [(List.cons.inj tail).1]
        simp

/-- A path that leads nowhere for good is in nobody's way. -/
theorem commute_make_of_error
    {path : Path} {problem : FileError}
    (settled : tree.Settled path)
    (settles : ∀ next ∈ rival.paths, tree.Settled next)
    (missed : tree.locate path = .error problem) :
    Action.Commute (.make path) rival tree := by
  apply Action.commute_of_apart _ settles
  · intro next member reached _ place found
    rw [List.mem_singleton.mp member, missed] at found
    cases found
  · intro next member
    rw [List.mem_singleton.mp member]
    exact settled

theorem commute_makes
    {made beyond rest others : List Path} {path next : Path}
    (left : rungs base digest = made ++ path :: rest)
    (standing : ∀ rung ∈ made, tree.Stands rung)
    (right : rungs base other = beyond ++ next :: others)
    (stands : ∀ rung ∈ beyond, tree.Stands rung) :
    Action.Commute (.make path) (.make next) tree := by
  have first : tree.Settled path := settled_of_rungs left standing
  have second : tree.Settled next := settled_of_rungs right stands
  rcases next_rung tree left with
    ⟨problem, missed⟩ | ⟨tail, shared⟩ | ⟨rfl, rfl⟩
  · apply commute_make_of_error first _ missed
    simpa [Action.paths] using second
  all_goals
    rcases next_rung tree right with
      ⟨problem, missed⟩ | ⟨ending, common⟩ | ⟨rfl, rfl⟩
    · apply (commute_make_of_error second _ missed).symm
      simpa [Action.paths] using first
  · -- One of the two has made what the other is about to make, or both are
    -- about to make the same.
    rcases mem_or_eq_of_split shared common with above | rfl | below
    · exact Action.commute_of_stands (stands path above)
    · exact Action.commute_make_self path tree
    · exact (Action.commute_of_stands (standing next below)).symm
  · apply Action.commute_of_stands (stands path _)
    simp [shared]
  · apply (Action.commute_of_stands (standing next _)).symm
    simp [common]
  · by_cases same : directoryNames digest = directoryNames other
    · rw [directoryPath, same]
      exact Action.commute_make_self _ tree
    · apply Action.commute_of_apart
      · simpa [Action.paths] using first
      · simpa [Action.paths] using second
      · intro path member next present place found
        rw [List.mem_singleton.mp member] at found
        rw [List.mem_singleton.mp present]
        exact apart_below (directoryNames_isPlain digest)
          (directoryNames_isPlain other) same found

theorem commute_make_file
    {made rest : List Path} {path : Path}
    (split : rungs base digest = made ++ path :: rest)
    (standing : ∀ rung ∈ made, tree.Stands rung)
    (ready : Ready base tree other)
    (own : rival.paths ⊆ filePaths base other) :
    Action.Commute (.make path) rival tree := by
  have settled : tree.Settled path := settled_of_rungs split standing
  have settles : ∀ next ∈ rival.paths, tree.Settled next :=
    fun next member => ready.settled (own member)
  rcases next_rung tree split with
    ⟨problem, missed⟩ | ⟨tail, shared⟩ | ⟨rfl, rfl⟩
  · exact commute_make_of_error settled settles missed
  · apply Action.commute_of_stands (ready.stands_shared _)
    simp [shared]
  · apply Action.commute_of_apart _ settles
    · intro path member next present place found
      rw [List.mem_singleton.mp member] at found
      exact apart_directory_file (own present) found
    · simpa [Action.paths] using settled

theorem commute_files
    (different : digest ≠ other)
    (ready : Ready base tree digest)
    (own : action.paths ⊆ filePaths base digest)
    (stands : Ready base tree other)
    (foreign : rival.paths ⊆ filePaths base other) :
    Action.Commute action rival tree := by
  apply Action.commute_of_apart
  · exact fun path member => ready.settled (own member)
  · exact fun path member => stands.settled (foreign member)
  · intro path member next present place found
    exact apart_files different (own member) (foreign present) found

/-- Where no directory can be, something proper changes own files only. -/
theorem Proper.own_of_touched
    {place : Place}
    (proper : Proper base tree other rival)
    (barred : tree.Barred place)
    (touched : place ∈ rival.touched tree) :
    Ready base tree other ∧
      ∃ path ∈ filePaths base other, tree.locate path = .ok place := by
  cases proper with
  | make split standing => exact absurd touched barred.not_mem_touched_make
  | file ready own =>
      obtain ⟨⟨path, present, reached⟩, -⟩ := Action.of_mem_touched touched
      exact ⟨ready, path, own present, reached⟩
  | undo blocked =>
      simp [Action.touched, Action.edits, blocked.edits?_drop] at touched

/-- Nothing proper changes what bars the place of a directory. -/
theorem Proper.untouched_rung
    {path : Path} {place : Place}
    (proper : Proper base tree other rival)
    (member : path ∈ rungs base digest)
    (found : tree.locate path = .ok place)
    (barred : tree.Barred place) :
    place ∉ rival.touched tree := by
  intro touched
  obtain ⟨ready, next, own, reached⟩ := proper.own_of_touched barred touched
  obtain ⟨made, rest, split⟩ := List.append_of_mem member
  rcases next_rung tree split with
    ⟨problem, missed⟩ | ⟨tail, shared⟩ | ⟨rfl, rfl⟩
  · rw [missed] at found
    cases found
  · have common : path ∈ sharedRungs base := by simp [shared]
    obtain ⟨standing, led, directory⟩ := ready.stands_shared common
    rw [found] at led
    cases led
    exact barred.not_directory directory
  · exact apart_directory_file own found reached

/-- Nothing proper for another entry replaces a file of an entry. -/
theorem Proper.untouched_file
    {path : Path} {place : Place} {bytes : List UInt8}
    (proper : Proper base tree other rival)
    (different : digest ≠ other)
    (member : path ∈ filePaths base digest)
    (found : tree.locate path = .ok place)
    (content : tree.get? place = some (.file bytes)) :
    place ∉ rival.touched tree := by
  intro touched
  obtain ⟨-, next, own, reached⟩ :=
    proper.own_of_touched (.inl ⟨bytes, content⟩) touched
  exact apart_files different member own found reached

theorem Blocked.after
    (blocked : Blocked base tree digest)
    (proper : Proper base tree other rival) :
    Blocked base (rival.after tree) digest := by
  obtain ⟨path, member, settled, fails⟩ := blocked
  have keeps := rival.keeps_after tree
  refine ⟨path, member, settled.keeps keeps, ?_⟩
  rw [make_fails_iff] at fails ⊢
  intro place found
  rw [settled keeps] at found
  exact (fails found).after (proper.untouched_rung member found (fails found))

/-- What is proper stays so. -/
theorem Proper.after
    (proper : Proper base tree digest action)
    (foreign : Proper base tree other rival) :
    Proper base (rival.after tree) digest action := by
  have keeps := rival.keeps_after tree
  cases proper with
  | make split standing =>
      exact .make split fun rung member => (standing rung member).keeps keeps
  | file ready own => exact .file (ready.keeps keeps) own
  | undo blocked => exact .undo (blocked.after foreign)

theorem Blocked.commute
    (blocked : Blocked base tree digest)
    (proper : Proper base tree other rival) :
    Action.Commute (.drop (entryPath base digest)) rival tree := by
  apply Action.commute_of_idle
  · simp [Action.touched, Action.edits, blocked.edits?_drop]
  · rw [blocked.edits?_drop, (blocked.after proper).edits?_drop]

/-- What is proper for different entries commutes. -/
theorem Proper.commute
    (different : digest ≠ other)
    (proper : Proper base tree digest action)
    (foreign : Proper base tree other rival) :
    Action.Commute action rival tree := by
  cases proper with
  | make split standing =>
      cases foreign with
      | make parted stands => exact commute_makes split standing parted stands
      | file ready own => exact commute_make_file split standing ready own
      | undo blocked => exact (blocked.commute (.make split standing)).symm
  | file ready own =>
      cases foreign with
      | make parted stands =>
          exact (commute_make_file parted stands ready own).symm
      | file stands foreign =>
          exact commute_files different ready own stands foreign
      | undo blocked => exact (blocked.commute (.file ready own)).symm
  | undo blocked => exact blocked.commute foreign

end Store

end ShaderSynth
