import ShaderSynth.Proofs.Store.Tasks

/-!
# Entries are whole

Wherever tasks have got to, a file is either one that was there before or is
where a task or the index put it.  What is put into the place of an entry has
been written before, so it is all of a saved entry.
-/

namespace ShaderSynth.Store

open FileTree

/-- What may be put into a file with a name below the base. -/
def Holds
    (saved : UInt64 → List UInt8 → Prop) (names : List String)
    (bytes : List UInt8) : Prop :=
  names = indexNames ∨
    (∃ digest, names = temporaryNames digest) ∨
      ∃ digest, names = entryNames digest ∧ saved digest bytes

/-- A file is where something may have put it. -/
def Placed
    (base : String) (saved : UInt64 → List UInt8 → Prop) (tree : FileTree)
    (place : Place) (bytes : List UInt8) : Prop :=
  ∃ home names,
    tree.follow (Path.ofText base) = .ok home ∧
      place = home ++ names ∧ Holds saved names bytes

/-- Every file was there before, or is where something may have put it. -/
def Whole
    (base : String) (initial : FileTree) (saved : UInt64 → List UInt8 → Prop)
    (tree : FileTree) : Prop :=
  ∀ ⦃place bytes⦄, tree.get? place = some (.file bytes) →
    initial.get? place = some (.file bytes) ∨
      Placed base saved tree place bytes

variable {base : String} {initial tree : FileTree}
  {saved : UInt64 → List UInt8 → Prop}

theorem whole_initial : Whole base initial saved initial :=
  fun _ _ found => .inl found

theorem placed_of_locate
    {names : List String} {place : Place} {bytes : List UInt8}
    (plain : ∀ name ∈ names, IsPlain name)
    (found : tree.locate (pathBelow base names) = .ok place)
    (holds : Holds saved names bytes) :
    Placed base saved tree place bytes := by
  obtain ⟨home, led, joined⟩ := locate_append plain found
  exact ⟨home, names, led, joined, holds⟩

/-- What stands at the place of an entry was there before or is saved whole. -/
theorem Whole.entry
    {digest : UInt64} {place : Place} {bytes : List UInt8}
    (whole : Whole base initial saved tree)
    (found : tree.locate (entryPath base digest) = .ok place)
    (content : tree.get? place = some (.file bytes)) :
    initial.get? place = some (.file bytes) ∨ saved digest bytes := by
  rcases whole content with old | ⟨home, names, led, joined, holds⟩
  · exact .inl old
  · right
    obtain ⟨same, leads, rfl⟩ := locate_append (entryNames_isPlain digest) found
    rw [led] at leads
    cases leads
    have equal := List.append_cancel_left joined
    rcases holds with index | ⟨other, temporary⟩ | ⟨other, entry, kept⟩
    · have length := congrArg List.length (equal.trans index)
      simp [entryNames, directoryNames, indexNames] at length
    · exact absurd (equal.trans temporary)
        (entryNames_ne_temporaryNames digest other)
    · rw [entryNames_injective (equal.trans entry)]
      exact kept

/-! ## What keeps entries whole -/

theorem Whole.after
    {action : Action}
    (whole : Whole base initial saved tree)
    (placed :
      ∀ {place bytes}, (place, some (.file bytes)) ∈ action.edits tree →
        Placed base saved tree place bytes) :
    Whole base initial saved (action.after tree) := by
  intro place bytes found
  have stays (placed : Placed base saved tree place bytes) :
      Placed base saved (action.after tree) place bytes := by
    obtain ⟨home, names, led, rest⟩ := placed
    exact ⟨home, names, (action.keeps_after tree).follow led, rest⟩
  rw [Action.get?_after] at found
  cases edited : (action.edits tree).lookup place with
  | none =>
      rw [edited] at found
      exact (whole found).imp_right stays
  | some left =>
      rw [edited] at found
      obtain rfl : left = some (.file bytes) := found
      obtain ⟨first, rest, split, -⟩ := List.lookup_eq_some_iff.mp edited
      exact .inr (stays (placed (by simp [split])))

theorem Whole.after_make
    (whole : Whole base initial saved tree) (path : Path) :
    Whole base initial saved ((Action.make path).after tree) := by
  apply whole.after
  intro place bytes member
  rcases Action.of_mem_edits_file member with
    ⟨_, other, -⟩ | ⟨_, _, other, -⟩ <;> cases other

theorem Whole.after_drop
    (whole : Whole base initial saved tree) (path : Path) :
    Whole base initial saved ((Action.drop path).after tree) := by
  apply whole.after
  intro place bytes member
  rcases Action.of_mem_edits_file member with
    ⟨_, other, -⟩ | ⟨_, _, other, -⟩ <;> cases other

theorem Whole.after_put
    {names : List String} {bytes : List UInt8}
    (whole : Whole base initial saved tree)
    (plain : ∀ name ∈ names, IsPlain name)
    (holds : Holds saved names bytes) :
    Whole base initial saved
      ((Action.put (pathBelow base names) bytes).after tree) := by
  apply whole.after
  intro place content member
  rcases Action.of_mem_edits_file member with
    ⟨path, same, found⟩ | ⟨_, _, other, -⟩
  · cases same
    exact placed_of_locate plain found holds
  · cases other

/-- A task puts nothing but its entry into the place of an entry. -/
theorem Whole.advance
    {task : Task}
    (whole : Whole base initial saved tree)
    (valid : task.Valid base tree)
    (kept : saved task.digest task.bytes) (more : Nat) :
    Whole base initial saved ((task.action base more).after tree) := by
  obtain ⟨digest, bytes, phase⟩ := task
  cases phase with
  | making path rest => exact whole.after_make path
  | opening =>
      exact whole.after_put (temporaryNames_isPlain digest)
        (.inr (.inl ⟨digest, rfl⟩))
  | filling written =>
      exact whole.after_put (temporaryNames_isPlain digest)
        (.inr (.inl ⟨digest, rfl⟩))
  | moving =>
      apply whole.after
      intro place content member
      rcases Action.of_mem_edits_file member with
        ⟨_, other, -⟩ | ⟨source, target, same, found, read⟩
      · cases other
      · cases same
        rw [valid.2] at read
        cases read
        exact placed_of_locate (entryNames_isPlain digest) found
          (.inr (.inr ⟨digest, rfl, kept⟩))
  | clearing => exact whole.after_drop _
  | undoing => exact whole.after_drop _

/-! ## The index -/

theorem Whole.makeEach
    (whole : Whole base initial saved tree) (paths : List Path) :
    Whole base initial saved (tree.makeEach paths).2 := by
  refine makeEach_invariant (Whole base initial saved) ?_ whole paths
  intro current later path made whole
  have ran : (Action.make path).run current = .ok later := made
  obtain ⟨-, rfl⟩ := Action.of_run_eq_ok ran
  exact whole.after_make path

theorem makeEach_alike
    {left right : FileTree} (alike : Alike left right) (paths : List Path) :
    (left.makeEach paths).1.isOk = (right.makeEach paths).1.isOk ∧
      Alike (left.makeEach paths).2 (right.makeEach paths).2 := by
  induction paths generalizing left right with
  | nil => exact ⟨rfl, alike⟩
  | cons path rest ih =>
      have same := alike.succeeds (.make path)
      have later := alike.after (.make path)
      simp only [Action.succeeds, Action.run] at same
      simp only [Action.after, Action.run] at later
      rw [makeEach, makeEach]
      cases first : left.makeDirectory path <;>
        cases second : right.makeDirectory path <;>
        rw [first, second] at same later
      · exact ⟨rfl, alike⟩
      · cases same
      · cases same
      · exact ih later

theorem makeDirectories_alike
    {left right : FileTree} (alike : Alike left right) (path : Path) :
    (left.makeDirectories path).1.isOk = (right.makeDirectories path).1.isOk ∧
      Alike (left.makeDirectories path).2 (right.makeDirectories path).2 := by
  unfold makeDirectories
  cases path.flaw? with
  | some problem => exact ⟨rfl, alike⟩
  | none => exact makeEach_alike alike _

/-- Writing the index makes directories, and then a file if there are all. -/
theorem writeIndex_tree
    (base : String) (digests : List UInt64) (tree : FileTree) :
    let made := tree.makeDirectories (Path.ofText base)
    (writeIndex base digests tree).2 =
      if made.1.isOk then
        (Action.put (pathBelow base indexNames)
          (digests.flatMap Format.wordBytes)).after made.2
      else made.2 := by
  dsimp only
  unfold writeIndex
  rcases tree.makeDirectories (Path.ofText base) with
    ⟨problem | ⟨⟨⟩⟩, made⟩
  · rfl
  · simp only [Action.after, Action.run]
    cases made.write (pathBelow base indexNames)
        (digests.flatMap Format.wordBytes) <;> rfl

theorem Whole.writeIndex
    (whole : Whole base initial saved tree) (digests : List UInt64) :
    Whole base initial saved (writeIndex base digests tree).2 := by
  have made :
      Whole base initial saved
        (tree.makeDirectories (Path.ofText base)).2 := by
    unfold makeDirectories
    cases (Path.ofText base).flaw? with
    | some problem => exact whole
    | none => exact whole.makeEach _
  rw [writeIndex_tree]
  split
  · exact made.after_put indexNames_isPlain (.inl rfl)
  · exact made

theorem keeps_writeIndex
    (base : String) (digests : List UInt64) (tree : FileTree) :
    Keeps tree (writeIndex base digests tree).2 := by
  have made :=
    (tree.makeDirectories_changes (Path.ofText base)).directories
  rw [writeIndex_tree]
  split
  · exact made.trans (Action.keeps_after _ _)
  · exact made

theorem writeIndex_alike
    {left right : FileTree} (alike : Alike left right)
    (digests : List UInt64) :
    Alike (writeIndex base digests left).2
      (writeIndex base digests right).2 := by
  obtain ⟨same, made⟩ := makeDirectories_alike alike (Path.ofText base)
  rw [writeIndex_tree, writeIndex_tree, same]
  split
  · exact made.after _
  · exact made

end ShaderSynth.Store
