import Mathlib.Data.Nat.Digits.Defs
import Mathlib.Data.String.Basic
import ShaderSynth.Proofs.FileTree.Locality
import ShaderSynth.Proofs.Store.Plans

/-!
# Entries do not get into each other's way

Writing an entry has an effect on its own file and on its temporary file, and
on no other.  If it fails, the file of the entry is as it was.  Different
entries have different files, so that what is done for one of them can be
exchanged with what is done for another.

A removal that finds a directory missing is the exception.  Writing another
entry makes directories, and a path that goes up again from one of them may
then lead to a file that the removal did not find before.
-/

namespace ShaderSynth.Store

open FileTree

variable {base : String} {digest other : UInt64} {tree : FileTree}

/-! ## What writing an entry does -/

/--
The temporary file of an entry is gone, or it still holds these bytes where
the tree refuses to remove it.
-/
def Discarded
    (base : String) (digest : UInt64) (bytes : List UInt8) (tree : FileTree) :
    Prop :=
  ∃ place,
    tree.locate (temporaryPath base digest) = .ok place ∧
      ((.remove, place) ∉ tree.refused →
        tree.read (temporaryPath base digest) = .error .notFound) ∧
      ((.remove, place) ∈ tree.refused →
        tree.read (temporaryPath base digest) = .ok bytes)

theorem discarded_after_drop
    {bytes : List UInt8}
    (content : tree.read (temporaryPath base digest) = .ok bytes) :
    Discarded base digest bytes
      ((Action.drop (temporaryPath base digest)).after tree) := by
  obtain ⟨place, found, file⟩ := read_eq_ok_iff.mp content
  have edits := Action.edits?_drop_of_file found file
  refine ⟨place, (Action.keeps_after _ tree).locate found,
    fun permitted => ?_, fun refused => ?_⟩
  · rw [Action.refused_after] at permitted
    rw [if_neg permitted] at edits
    exact Action.read_after_drop (by rw [Action.succeeds_eq, edits]; rfl)
  · rw [Action.refused_after] at refused
    rw [if_pos refused] at edits
    rw [Action.after_of_fails (by rw [Action.succeeds_eq, edits]; rfl),
      content]

/--
A temporary file is moved into the place of the entry.  Otherwise it is
removed, as far as that is not refused.
-/
theorem moving_cases
    {bytes : List UInt8}
    (content : tree.read (temporaryPath base digest) = .ok bytes) :
    let (result, after) := (moving base digest).run tree
    (result = .ok () ∧ after.read (entryPath base digest) = .ok bytes ∧
        after.read (temporaryPath base digest) = .error .notFound ∧
        Local [temporaryPath base digest, entryPath base digest] tree
          after) ∨
      (∃ problem, result = .error problem) ∧
        Discarded base digest bytes after ∧
        Local [temporaryPath base digest] tree after := by
  let move := Action.move (temporaryPath base digest) (entryPath base digest)
  let drop := Action.drop (temporaryPath base digest)
  unfold moving
  simp only [Plan.run]
  cases moved : move.succeeds tree with
  | true =>
      have apart {place : Place}
          (found : tree.locate (temporaryPath base digest) = .ok place) :
          tree.locate (entryPath base digest) ≠ .ok place :=
        apart_below (temporaryNames_isPlain digest)
          (entryNames_isPlain digest)
          (entryNames_ne_temporaryNames digest digest).symm found
      obtain ⟨gone, stored⟩ := Action.read_after_move apart content moved
      exact .inl ⟨rfl, stored, gone, move.local_after tree⟩
  | false =>
      rw [Action.after_of_fails moved]
      exact .inr ⟨⟨_, rfl⟩, discarded_after_drop content,
        drop.local_after tree⟩

/-- How writing an entry can end, and what it has done then. -/
theorem write_cases
    {stamp : Stamp} {entry : Entry} {result : Except StoreError Unit}
    {after : FileTree}
    (ran : write base digest stamp entry tree = (result, after)) :
    (result = .ok () ∧
        after.read (entryPath base digest) = .ok (entry.toBytes stamp) ∧
        after.read (temporaryPath base digest) = .error .notFound ∧
        Local [temporaryPath base digest, entryPath base digest] tree
          after) ∨
      (∃ problem, result = .error problem) ∧
        ((∃ path, result = .error (.moving path)) →
          Discarded base digest (entry.toBytes stamp) after) ∧
        Local [temporaryPath base digest] tree after := by
  rw [write_eq_run, writing, Plan.run_climb] at ran
  have grown := local_makeEach tree (rungs base digest)
  generalize tree.makeEach (rungs base digest) = made at ran grown
  obtain ⟨problem | ⟨⟨⟩⟩, made⟩ := made
  · obtain ⟨rfl, rfl⟩ := Prod.mk.inj ran
    exact .inr ⟨⟨_, rfl⟩, by simp, grown.mono (by simp)⟩
  · simp only [Plan.run] at ran
    have filled :=
      grown.trans
        ((Action.put (temporaryPath base digest)
          (entry.toBytes stamp)).local_after made)
    cases opened :
        (Action.put (temporaryPath base digest)
          (entry.toBytes stamp)).succeeds made with
    | false =>
        rw [opened] at ran
        obtain ⟨rfl, rfl⟩ := Prod.mk.inj ran
        exact .inr ⟨⟨_, rfl⟩, by simp, filled⟩
    | true =>
        rw [opened] at ran
        have ends := moving_cases (Action.read_after_put opened)
        rw [ran] at ends
        obtain ⟨done, stored, gone, moved⟩ | ⟨failed, discarded, moved⟩ := ends
        · exact .inl ⟨done, stored, gone,
            (filled.trans moved).mono (by simp [Action.paths])⟩
        · exact .inr ⟨failed, fun _ => discarded,
            (filled.trans moved).mono (by simp [Action.paths])⟩

/-! ## Where a removal looks -/

/-- The names on the way to an entry, without those that stay. -/
def plainPath (base : String) (digest : UInt64) : Path :=
  (Path.ofText base).plain ++ entryNames digest

theorem follow_entryPath
    (base : String) (digest : UInt64) (tree : FileTree) :
    tree.follow (entryPath base digest) =
      tree.follow (plainPath base digest) := by
  have split :
      entryPath base digest =
        directoryPath base digest ++ [fileName digest] := by
    simp [entryPath, directoryPath, pathBelow, entryNames]
  rw [split, follow_plain, plain_directoryPath, plainPath, entryNames,
    List.append_assoc]

theorem mem_sharedRungs
    {above rest : Path}
    (split : (Path.ofText base).plain ++ ["shaders"] = above ++ rest) :
    above ∈ sharedRungs base := by
  unfold sharedRungs Path.ancestors
  dsimp only
  rw [split]
  cases rest with
  | nil => simp
  | cons name names =>
      apply List.mem_append_left
      refine List.mem_map.mpr ⟨above.length, ?_, List.take_left⟩
      simp

/-- A proper part of the way to an entry leads to one of its directories. -/
theorem part_of_plainPath
    {above names : Path} (split : plainPath base digest = above ++ names)
    (more : names ≠ []) :
    above ∈ sharedRungs base ∨
      above = (Path.ofText base).plain ++ directoryNames digest := by
  have whole :
      plainPath base digest =
        ((Path.ofText base).plain ++ ["shaders"]) ++
          [Hex.lower 4 (digest.toNat / lowRange), fileName digest] := by
    simp [plainPath, entryNames, directoryNames]
  rw [whole] at split
  rcases List.append_eq_append_iff.mp split with
    ⟨beyond, rfl, rest⟩ | ⟨within, shared, -⟩
  · rcases beyond with - | ⟨name, - | ⟨last, others⟩⟩
    · rw [List.append_nil]
      exact .inl (mem_sharedRungs (List.append_nil _).symm)
    · obtain ⟨rfl, -⟩ := List.cons.inj rest
      exact .inr (by simp [directoryNames])
    · have length := congrArg List.length rest
      simp only [List.length_cons, List.length_nil, List.length_append]
        at length
      exact absurd (List.length_eq_zero_iff.mp (by omega)) more
  · exact .inl (mem_sharedRungs shared)

theorem plainPath_sublist (base : String) (digest : UInt64) :
    (plainPath base digest).Sublist (entryPath base digest) :=
  List.filter_sublist.append (.refl _)

/-- The way to an entry goes on from each of its directories. -/
theorem entry_below_rung
    {path : Path} (fine : (entryPath base digest).flaw? = none)
    (member : path ∈ rungs base digest) :
    path.flaw? = none ∧
      ∃ name rest, ∀ tree : FileTree,
        tree.follow (entryPath base digest) =
          tree.follow (path ++ name :: rest) := by
  have split :
      entryPath base digest =
        directoryPath base digest ++ [fileName digest] := by
    simp [entryPath, directoryPath, pathBelow, entryNames]
  have above : (directoryPath base digest).flaw? = none := by
    rw [split] at fine
    exact Path.flaw?_of_sublist (List.sublist_append_left _ _) fine
  rw [rungs_of_fine above] at member
  rcases List.mem_append.mp member with shared | last
  · obtain ⟨within, joined⟩ := Path.append_of_mem_ancestors shared
    have whole :
        plainPath base digest =
          path ++
            (within ++
              [Hex.lower 4 (digest.toNat / lowRange), fileName digest]) := by
      rw [← List.append_assoc, ← joined]
      simp [plainPath, entryNames, directoryNames]
    refine ⟨Path.flaw?_of_sublist ?_ fine, ?_⟩
    · apply List.Sublist.trans _ (plainPath_sublist base digest)
      rw [whole]
      exact List.sublist_append_left _ _
    · obtain ⟨name, rest, tail⟩ :=
        List.exists_cons_of_ne_nil
          (List.append_ne_nil_of_right_ne_nil within
            (List.cons_ne_nil (Hex.lower 4 (digest.toNat / lowRange))
              [fileName digest]))
      refine ⟨name, rest, fun tree => ?_⟩
      rw [follow_entryPath, whole, tail]
  · rw [List.mem_singleton.mp last]
    exact ⟨above, fileName digest, [], fun tree => by rw [split]⟩

/-! ## Removals that find the same -/

variable {rival : Action}

theorem entryPath_mem_filePaths (base : String) (digest : UInt64) :
    entryPath base digest ∈ filePaths base digest := by
  simp [filePaths]

/-- Nothing that is done for another entry touches the place of an entry. -/
theorem Ready.untouched
    {place : Place}
    (ready : Ready base tree digest) (different : digest ≠ other)
    (foreign : Proper base tree other rival)
    (found : tree.locate (entryPath base digest) = .ok place) :
    place ∉ rival.touched tree := by
  have own := entryPath_mem_filePaths base digest
  intro touched
  obtain ⟨⟨path, member, reached⟩, free⟩ := Action.of_mem_touched touched
  cases foreign with
  | make split standing =>
      obtain rfl := List.mem_singleton.mp member
      rcases next_rung tree split with
        ⟨problem, missed⟩ | ⟨others, shared⟩ | ⟨-, rfl⟩
      · rw [missed] at reached
        cases reached
      · have common : path ∈ sharedRungs base := by simp [shared]
        obtain ⟨home, led, directory⟩ := ready.stands_shared common
        rw [reached] at led
        cases led
        exact free directory
      · exact apart_directory_file own reached found
  | file stands foreign =>
      exact apart_files different own (foreign member) found reached
  | undo blocked =>
      simp [Action.touched, Action.edits, blocked.edits?_drop] at touched

/-- What bars the way to an entry goes on to do so. -/
theorem Blocked.sameAt
    (blocked : Blocked base tree digest)
    (foreign : Proper base tree other rival) :
    SameAt (entryPath base digest) tree (rival.after tree) := by
  have missing {place : Place} :
      tree.locate (entryPath base digest) ≠ .ok place := by
    intro found
    obtain ⟨path, member, -, fails⟩ := blocked
    have stands := ready_of_locate found path member
    rw [Action.succeeds_eq, stands.edits?_make] at fails
    cases fails
  refine ⟨rival.refused_after tree, ?_, fun found => absurd found missing⟩
  cases flaw : (entryPath base digest).flaw? with
  | some problem => simp only [locate, flaw]
  | none =>
      obtain ⟨path, member, settled, fails⟩ := blocked
      obtain ⟨clean, name, rest, goes⟩ := entry_below_rung flaw member
      have led := settled (rival.keeps_after tree)
      simp only [locate, clean] at led
      have same :=
        follow_append_congr led
          (fun reached => by
            have found := locate_eq_ok_iff.mpr ⟨clean, reached⟩
            have barred := make_fails_iff.mp fails found
            exact ⟨barred.not_directory, Action.get?_after_of_not_mem
              (foreign.untouched_rung member found barred)⟩)
          name rest
      rw [← goes, ← goes] at same
      simp only [follow] at same
      simp only [locate, flaw, same]

theorem sameAt_entry
    (decided : Ready base tree digest ∨ Blocked base tree digest)
    (different : digest ≠ other) (foreign : Proper base tree other rival) :
    SameAt (entryPath base digest) tree (rival.after tree) := by
  rcases decided with ready | blocked
  · refine ⟨rival.refused_after tree,
      ready.settled (entryPath_mem_filePaths base digest)
        (rival.keeps_after tree), ?_⟩
    intro place found
    exact Action.get?_after_of_not_mem (ready.untouched different foreign found)
  · exact blocked.sameAt foreign

theorem proper_drop
    (decided : Ready base tree digest ∨ Blocked base tree digest) :
    Proper base tree digest (.drop (entryPath base digest)) := by
  rcases decided with ready | blocked
  · exact .file ready (by simp [Action.paths, filePaths])
  · exact .undo blocked

theorem decided_after
    (decided : Ready base tree digest ∨ Blocked base tree digest)
    (foreign : Proper base tree other rival) :
    Ready base (rival.after tree) digest ∨
      Blocked base (rival.after tree) digest :=
  decided.imp (fun ready => ready.keeps (rival.keeps_after tree))
    (fun blocked => blocked.after foreign)

/-- A plan for another entry leaves to a removal what it finds. -/
theorem Plan.sameAt_run
    {outcome : Type} {plan : Plan outcome}
    (allowed : plan.Allowed base other tree)
    (decided : Ready base tree digest ∨ Blocked base tree digest)
    (different : digest ≠ other) :
    SameAt (entryPath base digest) tree (plan.run tree).2 := by
  induction plan generalizing tree with
  | stop result => exact .refl _ tree
  | act action next ih =>
      obtain ⟨proper, rest⟩ := allowed
      exact (sameAt_entry decided different proper).trans
        (ih _ rest (decided_after decided proper))

/-! ## Removals that find nothing -/

theorem stands_or_first (tree : FileTree) (paths : List Path) :
    (∀ path ∈ paths, tree.Stands path) ∨
      ∃ made path rest,
        paths = made ++ path :: rest ∧ (∀ rung ∈ made, tree.Stands rung) ∧
          ¬ tree.Stands path := by
  induction paths with
  | nil => exact .inl (by simp)
  | cons path rest ih =>
      by_cases stands : tree.Stands path
      · rcases ih with all | ⟨made, next, others, rfl, standing, missing⟩
        · exact .inl (by simpa [stands] using all)
        · exact .inr ⟨path :: made, next, others, rfl,
            by simpa [stands] using standing, missing⟩
      · exact .inr ⟨[], path, rest, rfl, by simp, stands⟩

/--
The directories of an entry are there, or cannot be made, or the first that is
missing is still to be made.
-/
theorem ready_or_blocked_or_lacks
    (base : String) (digest : UInt64) (tree : FileTree) :
    (Ready base tree digest ∨ Blocked base tree digest) ∨
      ∃ names, tree.Lacks (plainPath base digest) names := by
  rcases stands_or_first tree (rungs base digest) with
    ready | ⟨made, path, rest, split, standing, missing⟩
  · exact .inl (.inl ready)
  · cases succeeds : (Action.make path).succeeds tree with
    | false =>
        refine .inl (.inr ⟨path, by simp [split], ?_, succeeds⟩)
        exact settled_of_rungs split standing
    | true =>
        right
        obtain ⟨place, found, content⟩ := succeeds_make_iff.mp succeeds
        obtain ⟨nothing, -⟩ :=
          content.resolve_right fun stands => missing ⟨place, found, stands⟩
        have led := (locate_eq_ok_iff.mp found).2
        rcases next_rung tree split with
          ⟨problem, missed⟩ | ⟨others, shared⟩ | ⟨-, rfl⟩
        · rw [missed] at found
          cases found
        · have common : path ∈ sharedRungs base := by simp [shared]
          obtain ⟨within, joined⟩ := Path.append_of_mem_ancestors common
          refine ⟨within ++
            [Hex.lower 4 (digest.toNat / lowRange), fileName digest],
            path, place, ?_, led, nothing⟩
          rw [← List.append_assoc, ← joined]
          simp [plainPath, entryNames, directoryNames]
        · rw [follow_directoryPath] at led
          refine ⟨[fileName digest], _, place, ?_, led, nothing⟩
          simp [plainPath, entryNames]

/-- What another entry needs is made on a path, but nothing at its end. -/
theorem lacks_after
    {names : Path}
    (rooted : tree.Rooted) (fine : (entryPath base digest).flaw? = none)
    (lacks : tree.Lacks (plainPath base digest) names)
    (descends : ∀ name ∈ names, Descends name)
    (different : digest ≠ other) (foreign : Proper base tree other rival) :
    ∃ fewer,
      (rival.after tree).Lacks (plainPath base digest) fewer ∧
        fewer ⊆ names := by
  apply Lacks.after rooted lacks descends
  intro above place split led nothing touched
  have more : names ≠ [] := by
    rintro rfl
    rw [List.append_nil] at split
    rw [← split, ← follow_entryPath] at led
    have found := locate_eq_ok_iff.mpr ⟨fine, led⟩
    exact (ready_of_locate found).untouched different foreign found touched
  refine ⟨more, ?_⟩
  cases foreign with
  | make parted standing => exact ⟨_, rfl⟩
  | file ready own =>
      obtain ⟨⟨path, member, reached⟩, -⟩ := Action.of_mem_touched touched
      rcases part_of_plainPath split more with shared | rfl
      · obtain ⟨home, found, standing⟩ := ready.stands_shared shared
        rw [(locate_eq_ok_iff.mp found).2] at led
        cases led
        rw [nothing] at standing
        cases standing
      · rw [← follow_directoryPath] at led
        have part :
            (directoryPath base digest).Sublist (entryPath base digest) := by
          rw [entryPath, pathBelow, entryNames, ← List.append_assoc]
          exact List.sublist_append_left _ _
        have found :=
          locate_eq_ok_iff.mpr ⟨Path.flaw?_of_sublist part fine, led⟩
        exact absurd reached (apart_directory_file (own member) found)
  | undo blocked =>
      simp [Action.touched, Action.edits, blocked.edits?_drop] at touched

theorem Plan.lacks_run
    {outcome : Type} {plan : Plan outcome} {names : Path}
    (allowed : plan.Allowed base other tree)
    (rooted : tree.Rooted) (fine : (entryPath base digest).flaw? = none)
    (lacks : tree.Lacks (plainPath base digest) names)
    (descends : ∀ name ∈ names, Descends name)
    (different : digest ≠ other) :
    ∃ fewer, (plan.run tree).2.Lacks (plainPath base digest) fewer := by
  induction plan generalizing tree names with
  | stop result => exact ⟨names, lacks⟩
  | act action next ih =>
      obtain ⟨proper, rest⟩ := allowed
      obtain ⟨fewer, later, subset⟩ :=
        lacks_after rooted fine lacks descends different proper
      exact ih _ rest (action.rooted_after rooted) later
        fun name member => descends name (subset member)

/-! ## Names that lead down -/

theorem utf8Len_le (letters : List Char) :
    String.utf8Len letters ≤ 4 * letters.length := by
  induction letters with
  | nil => simp [String.utf8Len]
  | cons letter rest ih =>
      have size := letter.utf8Size_le_four
      simp only [String.utf8Len, List.length_cons]
      omega

theorem utf8ByteSize_lower_le
    {width number : Nat} (positive : 0 < width)
    (small : number < 16 ^ width) :
    (Hex.lower width number).utf8ByteSize ≤ 4 * width := by
  have digits := Nat.toDigits_length 16 number width positive small
  unfold Hex.lower
  dsimp only
  rw [String.utf8ByteSize_ofList]
  apply Nat.le_trans (utf8Len_le _)
  rw [List.length_append, List.length_replicate]
  omega

theorem entryNames_descends (digest : UInt64) :
    ∀ name ∈ entryNames digest, Descends name := by
  have bound := digest.toNat_lt
  have high : digest.toNat / lowRange < 16 ^ 4 := by
    unfold lowRange
    omega
  have low : digest.toNat % lowRange < 16 ^ 12 :=
    Nat.mod_lt _ (by decide)
  intro name member
  refine ⟨entryNames_isPlain digest name member, ?_⟩
  simp only [entryNames, directoryNames, List.cons_append, List.nil_append,
    List.mem_cons, List.not_mem_nil, or_false] at member
  rcases member with rfl | rfl | rfl
  · decide
  · exact (utf8ByteSize_lower_le (by decide) high).trans (by decide)
  · exact (utf8ByteSize_lower_le (by decide) low).trans (by decide)

/--
The way to the base directory does not depend on directories that are still to
be made: none of them is missing, or it leads down all the way.
-/
def Steady (base : String) (tree : FileTree) : Prop :=
  ¬ tree.Vacant (Path.ofText base) ∨
    ∀ name ∈ Path.ofText base,
      name ≠ ".." ∧ name.utf8ByteSize ≤ Path.maxNameSize

theorem Steady.descends
    {names : Path} (steady : Steady base tree)
    (lacks : tree.Lacks (plainPath base digest) names) :
    ∀ name ∈ names, Descends name := by
  obtain ⟨above, place, split, led, nothing⟩ := lacks
  rcases steady with there | down
  · rcases List.append_eq_append_iff.mp split with
      ⟨beyond, -, rest⟩ | ⟨within, joined, -⟩
    · intro name member
      exact entryNames_descends digest name (by rw [rest]; simp [member])
    · refine absurd ?_ there
      obtain ⟨name, rest, tail⟩ :=
        List.exists_cons_of_ne_nil
          (List.append_ne_nil_of_right_ne_nil within
            (List.cons_ne_nil "." []))
      rw [Vacant, follow_plain, joined, List.append_assoc, tail]
      exact follow_nothing led nothing name rest
  · intro name member
    have among : name ∈ plainPath base digest := by
      rw [split]
      simp [member]
    rcases List.mem_append.mp among with own | entry
    · obtain ⟨listed, here⟩ := List.mem_filter.mp own
      obtain ⟨up, short⟩ := down name listed
      exact ⟨⟨by simpa using here, up⟩, short⟩
    · exact entryNames_descends digest name entry

/-! ## Removing entries -/

/-- Removes an entry; a failure leaves the tree as it is. -/
def removing (base : String) (digest : UInt64) (tree : FileTree) :
    Except FileError Unit × FileTree :=
  match remove base digest tree with
  | .ok later => (.ok (), later)
  | .error problem => (.error problem, tree)

theorem removing_tree (base : String) (digest : UInt64) (tree : FileTree) :
    (removing base digest tree).2 =
      (Action.drop (entryPath base digest)).after tree := by
  rw [after_drop_entry, removing]
  cases remove base digest tree <;> rfl

/-- The answer to a removal is decided by what is found. -/
theorem removing_result
    {later : FileTree}
    (same : SameAt (entryPath base digest) tree later) :
    (removing base digest later).1 = (removing base digest tree).1 := by
  have located := same.locate
  unfold removing Store.remove FileTree.remove
  rw [← entryPath, located]
  cases found : tree.locate (entryPath base digest) with
  | error problem => cases problem <;> rfl
  | ok place =>
      simp only [bind, Except.bind, same.content found, unlessRefused,
        same.refused]
      rcases tree.get? place with - | - | bytes
      · rfl
      · rfl
      · by_cases refused : (.remove, place) ∈ tree.refused <;>
          simp [refused]

theorem removing_of_error
    {problem : FileError}
    (missed : tree.locate (entryPath base digest) = .error problem) :
    removing base digest tree =
      (if problem = .notFound then .ok () else .error problem, tree) := by
  unfold removing Store.remove FileTree.remove
  rw [← entryPath, missed]
  cases problem <;> rfl

theorem removing_of_lacks
    {names : Path} (fine : (entryPath base digest).flaw? = none)
    (lacks : tree.Lacks (plainPath base digest) names) :
    removing base digest tree = (.ok (), tree) := by
  obtain ⟨above, place, split, led, nothing⟩ := lacks
  have goes := follow_entryPath base digest tree
  rw [split] at goes
  cases names with
  | nil =>
      rw [List.append_nil, led] at goes
      have found := locate_eq_ok_iff.mpr ⟨fine, goes⟩
      unfold removing Store.remove FileTree.remove
      rw [← entryPath, found]
      simp [bind, Except.bind, nothing]
  | cons name rest =>
      rw [follow_nothing led nothing] at goes
      have missed :
          tree.locate (entryPath base digest) = .error .notFound := by
        simp only [locate, fine]
        exact goes
      exact removing_of_error missed

/-- Removing an entry changes nothing for the removal of another. -/
theorem sameAt_drop (different : digest ≠ other) :
    SameAt (entryPath base digest) tree
      ((Action.drop (entryPath base other)).after tree) := by
  have keeps := (Action.drop (entryPath base other)).keeps_after tree
  cases succeeds : (Action.drop (entryPath base other)).succeeds tree with
  | false =>
      rw [Action.after_of_fails succeeds]
      exact .refl _ tree
  | true =>
      obtain ⟨gone, found, ⟨bytes, content⟩, edits⟩ :=
        Action.edits?_of_drop succeeds
      rcases ready_or_blocked_or_lacks base digest tree with
        decided | ⟨names, above, place, split, led, nothing⟩
      · exact sameAt_entry decided different
          (proper_drop (.inl (ready_of_locate found)))
      · apply Lacks.sameAt (follow_entryPath base digest) split led
          nothing keeps _ (Action.refused_after _ tree)
        rw [Action.get?_after_of_not_mem, nothing]
        intro member
        simp only [Action.touched, Action.edits, edits, Option.getD_some,
          List.map_cons, List.map_nil, List.mem_singleton] at member
        rw [member, content] at nothing
        cases nothing

/-- Different entries can be removed in any order. -/
theorem commute_removing (different : digest ≠ other) (tree : FileTree) :
    Commute (removing base digest) (removing base other) tree := by
  have first : SameAt (entryPath base digest) tree _ := sameAt_drop different
  have second : SameAt (entryPath base other) tree _ :=
    sameAt_drop different.symm
  have commute :
      Action.Commute (.drop (entryPath base digest))
        (.drop (entryPath base other)) tree := by
    apply Action.commute_of_edits? first.edits?_drop second.edits?_drop
    intro place mine theirs
    obtain ⟨⟨path, member, found⟩, -⟩ := Action.of_mem_touched mine
    obtain ⟨⟨next, present, reached⟩, -⟩ := Action.of_mem_touched theirs
    rw [List.mem_singleton.mp member] at found
    rw [List.mem_singleton.mp present] at reached
    exact apart_files different (entryPath_mem_filePaths base digest)
      (entryPath_mem_filePaths base other) found reached
  constructor
  · rw [removing_tree]
    exact removing_result first
  · rw [removing_tree]
    exact removing_result second
  · simp only [removing_tree]
    exact commute.alike

/-- Two operations of which one never changes the tree can be exchanged. -/
theorem commute_of_idle
    {first second : Type} {operation : FileTree → first × FileTree}
    {idle : FileTree → second × FileTree} {result : second}
    (before : idle tree = (result, tree))
    (after : idle (operation tree).2 = (result, (operation tree).2)) :
    Commute operation idle tree := by
  constructor
  · rw [before]
  · rw [before, after]
  · rw [before, after]
    exact .refl _

/-- Writing an entry can be exchanged with removing another. -/
theorem commute_write_removing
    (different : digest ≠ other) (rooted : tree.Rooted)
    (steady : Steady base tree) (stamp : Stamp) (entry : Entry) :
    Commute (write base digest stamp entry) (removing base other) tree := by
  have same :
      write base digest stamp entry =
        (writing base digest (entry.toBytes stamp)).run :=
    funext (write_eq_run base digest stamp entry)
  have allowed := allowed_writing base digest (entry.toBytes stamp) tree
  rw [same]
  rcases ready_or_blocked_or_lacks base other tree with
    decided | ⟨names, lacks⟩
  · obtain ⟨result, -, alike⟩ :=
      Plan.run_after allowed different (proper_drop decided)
    constructor
    · rw [removing_tree]
      exact result
    · exact removing_result (Plan.sameAt_run allowed decided different.symm)
    · rw [removing_tree, removing_tree]
      exact alike
  · cases flaw : (entryPath base other).flaw? with
    | some problem =>
        have missed (tree : FileTree) :
            tree.locate (entryPath base other) = .error problem := by
          simp only [locate, flaw]
        exact commute_of_idle (removing_of_error (missed _))
          (removing_of_error (missed _))
    | none =>
        obtain ⟨fewer, later⟩ :=
          Plan.lacks_run allowed rooted flaw lacks (steady.descends lacks)
            different.symm
        exact commute_of_idle (removing_of_lacks flaw lacks)
          (removing_of_lacks flaw later)

/--
Writing an entry is atomic and local.  If it succeeds, the file of the entry
holds the entry, there is no temporary file, and no other file has changed.
If it fails, no file but the temporary one has changed.  If that one was
written and could not be moved, it is gone, unless the tree refused to remove
it, and then it holds the entry.  Entries have files of their own, apart from
all temporary files and from the index.

So writing entries can be exchanged with writing others, and removing entries
with removing others.  Writing can be exchanged with removing in a tree
without gaps, unless the way to the base directory goes up, or by a name that
is too long, from a directory that is still to be made.
-/
theorem entries_apart (base : String) (tree : FileTree) :
    (∀ digest stamp entry after,
      write base digest stamp entry tree = (.ok (), after) →
        after.read (entryPath base digest) = .ok (entry.toBytes stamp) ∧
        after.read (temporaryPath base digest) = .error .notFound ∧
        Local [temporaryPath base digest, entryPath base digest] tree
          after) ∧
    (∀ digest stamp entry problem after,
      write base digest stamp entry tree = (.error problem, after) →
        ((∃ path, problem = .moving path) →
          Discarded base digest (entry.toBytes stamp) after) ∧
        Local [temporaryPath base digest] tree after) ∧
    (∀ digest other,
      entryPath base digest = entryPath base other ↔ digest = other) ∧
    (∀ digest other, entryPath base digest ≠ temporaryPath base other) ∧
    (∀ digest, entryPath base digest ≠ pathBelow base indexNames) ∧
    (∀ digest other stamp mark entry rival, digest ≠ other →
      Commute (write base digest stamp entry) (write base other mark rival)
        tree ∧
      Commute (removing base digest) (removing base other) tree ∧
      (tree.Rooted → Steady base tree →
        Commute (write base digest stamp entry) (removing base other)
          tree)) := by
  refine ⟨?_, ?_, ?_, ?_, ?_, ?_⟩
  · intro digest stamp entry after ran
    rcases write_cases ran with ⟨-, stored, gone, bounded⟩ | ⟨⟨_, other⟩, -⟩
    · exact ⟨stored, gone, bounded⟩
    · cases other
  · intro digest stamp entry problem after ran
    rcases write_cases ran with ⟨other, -⟩ | ⟨-, discarded, bounded⟩
    · cases other
    · refine ⟨?_, bounded⟩
      rintro ⟨path, rfl⟩
      exact discarded ⟨path, rfl⟩
  · intro digest other
    refine ⟨fun same => ?_, fun same => congrArg _ same⟩
    exact entryNames_injective (List.append_cancel_left same)
  · intro digest other same
    exact entryNames_ne_temporaryNames digest other
      (List.append_cancel_left same)
  · intro digest same
    have length := congrArg List.length (List.append_cancel_left same)
    simp [entryNames, directoryNames, indexNames] at length
  · intro digest other stamp mark entry rival different
    exact ⟨commute_write different stamp mark entry rival tree,
      commute_removing different tree,
      fun rooted steady =>
        commute_write_removing different rooted steady stamp entry⟩

/--
An empty tree, one with a directory in the place of the entry, and one that
also protects the temporary file.
-/
theorem entries_apart_empty :
    let stamp : Stamp := ⟨"1", "v"⟩
    let entry : Entry := ⟨default, ⟨1, []⟩⟩
    let occupied : FileTree :=
      { nodes :=
          [(["c"], .directory), (["c", "shaders"], .directory),
            (["c", "shaders", "0000"], .directory),
            (["c", "shaders", "0000", "000000000001"], .directory)] }
    let guarded : FileTree :=
      { occupied with
        refused := [(.remove, ["c", "shaders", "0000", "000000000001.tmp"])] }
    (write "c" 1 stamp entry .empty).2.read (entryPath "c" 1) =
        .ok (entry.toBytes stamp) ∧
      (write "c" 1 stamp entry occupied).2.read (temporaryPath "c" 1) =
        .error .notFound ∧
      (write "c" 1 stamp entry guarded).2.read (temporaryPath "c" 1) =
        .ok (entry.toBytes stamp) ∧
      Commute (write "c" 1 stamp entry) (removing "c" 2) .empty := by
  intro stamp entry occupied guarded
  have base : Path.ofText "c" = ["c"] := by decide
  have done : (write "c" 1 stamp entry .empty).1 = .ok () := by
    simp only [write, pathBelow, base]
    rfl
  have failed :
      (write "c" 1 stamp entry occupied).1 =
          .error (.moving (Path.join "c" (entryNames 1))) ∧
        (write "c" 1 stamp entry guarded).1 =
          .error (.moving (Path.join "c" (entryNames 1))) := by
    simp only [write, pathBelow, base]
    exact ⟨rfl, rfl⟩
  have refused :
      (write "c" 1 stamp entry occupied).2.refused = [] ∧
        (write "c" 1 stamp entry guarded).2.refused = guarded.refused := by
    simp only [write, pathBelow, base]
    exact ⟨rfl, rfl⟩
  have located :
      (write "c" 1 stamp entry guarded).2.locate (temporaryPath "c" 1) =
        .ok ["c", "shaders", "0000", "000000000001.tmp"] := by
    simp only [write, pathBelow, temporaryPath, base]
    rfl
  have steady : Steady "c" .empty := by
    refine .inr ?_
    rw [base]
    decide
  refine ⟨?_, ?_, ?_, ?_⟩
  · exact ((entries_apart "c" .empty).1 1 stamp entry _
      (Prod.ext done rfl)).1
  · obtain ⟨place, -, gone, -⟩ :=
      ((entries_apart "c" occupied).2.1 1 stamp entry _
        (write "c" 1 stamp entry occupied).2 (Prod.ext failed.1 rfl)).1
        ⟨_, rfl⟩
    exact gone (refused.1 ▸ List.not_mem_nil)
  · obtain ⟨place, found, -, kept⟩ :=
      ((entries_apart "c" guarded).2.1 1 stamp entry _
        (write "c" 1 stamp entry guarded).2 (Prod.ext failed.2 rfl)).1
        ⟨_, rfl⟩
    rw [located] at found
    cases found
    exact kept (refused.2 ▸ List.mem_singleton_self _)
  · exact ((entries_apart "c" .empty).2.2.2.2.2 1 2 stamp stamp entry entry
      (by decide)).2.2 rooted_empty steady

/--
Below a path that goes up from a missing directory, a removal finds an entry
only after the directory was made for another entry.
-/
theorem removal_depends_on_write :
    let stamp : Stamp := ⟨"1", "v"⟩
    let entry : Entry := ⟨default, ⟨1, []⟩⟩
    let stored : Place := ["shaders", "0000", "000000000002"]
    let tree : FileTree :=
      { nodes :=
          [(["shaders"], .directory), (["shaders", "0000"], .directory),
            (stored, .file [0])] }
    (write "a/.." 1 stamp entry (removing "a/.." 2 tree).2).2.get? stored =
        some (.file [0]) ∧
      (removing "a/.." 2 (write "a/.." 1 stamp entry tree).2).2.get? stored =
        none ∧
      ¬ Commute (write "a/.." 1 stamp entry) (removing "a/.." 2) tree := by
  intro stamp entry stored tree
  have base : Path.ofText "a/.." = ["a", ".."] := by decide
  have before :
      (write "a/.." 1 stamp entry (removing "a/.." 2 tree).2).2.get? stored =
        some (.file [0]) := by
    simp only [removing, remove, write, pathBelow, base]
    decide +kernel
  have after :
      (removing "a/.." 2 (write "a/.." 1 stamp entry tree).2).2.get? stored =
        none := by
    simp only [removing, remove, write, pathBelow, base]
    decide +kernel
  refine ⟨before, after, ?_⟩
  intro commute
  have same := commute.alike.content stored
  rw [before, after] at same
  cases same

end ShaderSynth.Store
