import ShaderSynth.Proofs.FileTree.Actions

/-!
# Where actions on files have an effect

`Local` bounds what was done to a tree by paths: files stay that none of them
leads to, and none appear elsewhere.  In a tree without gaps, `Rooted`, there
is nothing below where nothing is.  So a path that ends where nothing is,
`Lacks`, still does when a directory was made there, as long as it only goes
down from there.
-/

namespace ShaderSynth.FileTree

/-! ## Files that stay -/

/-- Directories stay, and so do files except for where these paths lead. -/
structure Local (paths : List Path) (before after : FileTree) : Prop where
  directories : Keeps before after
  files :
    ∀ place bytes, (∀ path ∈ paths, after.locate path ≠ .ok place) →
      (after.get? place = some (.file bytes) ↔
        before.get? place = some (.file bytes))

theorem Local.refl (tree : FileTree) : Local [] tree tree where
  directories := .refl tree
  files := fun _ _ _ => .rfl

theorem Local.trans
    {first second : List Path} {before middle after : FileTree}
    (left : Local first before middle) (right : Local second middle after) :
    Local (first ++ second) before after where
  directories := left.directories.trans right.directories
  files := by
    intro place bytes elsewhere
    rw [right.files place bytes, left.files place bytes]
    · intro path member found
      exact elsewhere path (by simp [member]) (right.directories.locate found)
    · intro path member
      exact elsewhere path (by simp [member])

theorem Local.mono
    {fewer more : List Path} {before after : FileTree}
    (bounded : Local fewer before after) (subset : fewer ⊆ more) :
    Local more before after where
  directories := bounded.directories
  files := fun place bytes elsewhere =>
    bounded.files place bytes
      fun path member => elsewhere path (subset member)

namespace Action

theorem after_of_fails
    {action : Action} {tree : FileTree}
    (fails : action.succeeds tree = false) :
    action.after tree = tree := by
  cases ran : action.run tree with
  | error problem => exact (of_run_eq_error ran).2
  | ok later =>
      rw [(of_run_eq_ok ran).1] at fails
      cases fails

theorem local_after (action : Action) (tree : FileTree) :
    Local action.paths tree (action.after tree) where
  directories := action.keeps_after tree
  files := by
    intro place bytes elsewhere
    rw [get?_after_of_not_mem]
    intro touched
    obtain ⟨⟨path, member, found⟩, -⟩ := of_mem_touched touched
    exact elsewhere path member ((action.keeps_after tree).locate found)

theorem get?_after_make
    {tree : FileTree} {path : Path} {place : Place}
    (touched : place ∈ (make path).touched tree) :
    ((make path).after tree).get? place = some .directory := by
  rw [get?_after]
  have does := (make path).does_edits tree
  unfold Action.touched at touched
  generalize (make path).edits tree = edits at does touched
  cases does with
  | nothing => cases touched
  | make found free => simp [List.mem_singleton.mp touched]

/-- Making a directory changes no file, and makes none. -/
theorem local_make (path : Path) (tree : FileTree) :
    Local [] tree ((make path).after tree) where
  directories := (make path).keeps_after tree
  files := by
    intro place bytes _
    by_cases touched : place ∈ (make path).touched tree
    · simp [get?_after_make touched, nothing_of_mem_touched_make touched]
    · rw [get?_after_of_not_mem touched]

end Action

theorem local_makeEach (tree : FileTree) (paths : List Path) :
    Local [] tree (tree.makeEach paths).2 := by
  refine makeEach_invariant (Local [] tree) ?_ (.refl tree) paths
  intro current later path made unchanged
  have ran : (Action.make path).run current = .ok later := made
  obtain ⟨-, rfl⟩ := Action.of_run_eq_ok ran
  exact unchanged.trans (Action.local_make path current)

/-! ## Files that are gone -/

theorem read_of_nothing
    {tree : FileTree} {path : Path} {place : Place}
    (found : tree.locate path = .ok place) (nothing : tree.get? place = none) :
    tree.read path = .error .notFound := by
  simp [read, found, nothing, bind, Except.bind]

namespace Action

theorem edits?_drop_of_file
    {tree : FileTree} {path : Path} {place : Place} {bytes : List UInt8}
    (found : tree.locate path = .ok place)
    (content : tree.get? place = some (.file bytes)) :
    (drop path).edits? tree =
      if (.remove, place) ∈ tree.refused then none
      else some [(place, none)] := by
  have wanted : (drop path).wanted? tree = some [(place, none)] := by
    simp only [wanted?, found, content]
  exact edits?_of_wanted_single wanted

/-- What is removed is a file whose removal is not refused. -/
theorem edits?_of_drop
    {tree : FileTree} {path : Path}
    (dropped : (drop path).succeeds tree = true) :
    ∃ place,
      tree.locate path = .ok place ∧
        (∃ bytes, tree.get? place = some (.file bytes)) ∧
        (drop path).edits? tree = some [(place, none)] := by
  rw [succeeds_eq] at dropped
  cases found : tree.locate path with
  | error problem =>
      rw [edits?_of_unwanted (by simp only [wanted?, found])] at dropped
      cases dropped
  | ok place =>
      rcases content : tree.get? place with - | - | bytes
      · rw [edits?_of_unwanted (by simp only [wanted?, found, content])]
          at dropped
        cases dropped
      · rw [edits?_of_unwanted (by simp only [wanted?, found, content])]
          at dropped
        cases dropped
      · rw [edits?_drop_of_file found content] at dropped ⊢
        refine ⟨place, rfl, ⟨bytes, content⟩, ?_⟩
        by_cases refused : (.remove, place) ∈ tree.refused
        · simp [refused] at dropped
        · simp [refused]

/-- A file that was moved is found at the target only. -/
theorem read_after_move
    {tree : FileTree} {source target : Path} {bytes : List UInt8}
    (apart :
      ∀ {place}, tree.locate source = .ok place →
        tree.locate target ≠ .ok place)
    (content : tree.read source = .ok bytes)
    (moved : (move source target).succeeds tree = true) :
    ((move source target).after tree).read source = .error .notFound ∧
      ((move source target).after tree).read target = .ok bytes := by
  obtain ⟨old, found, file⟩ := read_eq_ok_iff.mp content
  have keeps := (move source target).keeps_after tree
  rw [succeeds_eq] at moved
  cases reached : tree.locate target with
  | error problem =>
      rw [edits?_of_unwanted (by simp only [wanted?, found, reached])] at moved
      cases moved
  | ok new =>
      have different : old ≠ new := by
        rintro rfl
        exact apart found reached
      by_cases standing : tree.get? new = some .directory
      · rw [edits?_of_unwanted
          (by simp only [wanted?, found, reached, file, standing, if_true])]
          at moved
        cases moved
      · have wanted :
            (move source target).wanted? tree =
              some [(new, some (.file bytes)), (old, none)] := by
          simp only [wanted?, found, reached, file, standing, if_false]
        have edited :
            (move source target).edits tree =
              [(new, some (.file bytes)), (old, none)] := by
          rw [edits?_of_wanted wanted] at moved
          rw [edits, edits?_of_wanted wanted]
          split at moved
          · rename_i permitted
            rw [if_pos permitted]
            rfl
          · cases moved
        constructor
        · apply read_of_nothing (keeps.locate found)
          rw [get?_after, edited]
          simp [List.lookup_cons, beq_false_of_ne different]
        · rw [read_eq_ok_iff]
          refine ⟨new, keeps.locate reached, ?_⟩
          rw [get?_after, edited]
          simp

theorem read_after_drop
    {tree : FileTree} {path : Path}
    (dropped : (drop path).succeeds tree = true) :
    ((drop path).after tree).read path = .error .notFound := by
  obtain ⟨place, found, -, edits⟩ := edits?_of_drop dropped
  apply read_of_nothing (((drop path).keeps_after tree).locate found)
  rw [get?_after, Action.edits, edits]
  simp

end Action

/-! ## Paths that lead to the same -/

/--
A path leads to the same place in both trees, with the same in it, and the
trees refuse the same.
-/
structure SameAt (path : Path) (before after : FileTree) : Prop where
  refused : after.refused = before.refused
  locate : after.locate path = before.locate path
  content :
    ∀ {place}, before.locate path = .ok place →
      after.get? place = before.get? place

namespace SameAt

variable {path : Path} {before middle after : FileTree}

theorem refl (path : Path) (tree : FileTree) : SameAt path tree tree :=
  ⟨rfl, rfl, fun _ => rfl⟩

theorem trans
    (first : SameAt path before middle) (second : SameAt path middle after) :
    SameAt path before after where
  refused := second.refused.trans first.refused
  locate := second.locate.trans first.locate
  content := by
    intro place found
    rw [second.content (first.locate.trans found), first.content found]

theorem edits?_drop (same : SameAt path before after) :
    (Action.drop path).edits? after = (Action.drop path).edits? before := by
  apply Action.edits?_congr same.refused
  · intro other member
    rw [List.mem_singleton.mp member]
    exact same.locate
  · intro other member place found
    rw [List.mem_singleton.mp member] at found
    exact same.content found

end SameAt

/-- What a path runs into stays in its way. -/
theorem follow_append_congr
    {before after : FileTree} {above : Path}
    (same : after.follow above = before.follow above)
    (barred :
      ∀ {place}, before.follow above = .ok place →
        before.get? place ≠ some .directory ∧
          after.get? place = before.get? place)
    (name : String) (rest : Path) :
    after.follow (above ++ name :: rest) =
      before.follow (above ++ name :: rest) := by
  unfold follow at same barred ⊢
  rw [List.foldlM_append, List.foldlM_append, same]
  cases reached : above.foldlM before.step [] with
  | error problem => rfl
  | ok place =>
      obtain ⟨free, kept⟩ := barred reached
      rcases content : before.get? place with - | - | bytes
      · simp [step, kept, content, bind, Except.bind]
      · exact absurd content free
      · simp [step, kept, content, bind, Except.bind]

/-! ## Trees without gaps -/

/-- Whatever is found is found in a directory. -/
def Rooted (tree : FileTree) : Prop :=
  ∀ ⦃above : Place⦄ ⦃name : String⦄ ⦃node : Node⦄,
    tree.get? (above ++ [name]) = some node →
      tree.get? above = some .directory

theorem rooted_empty : empty.Rooted := by
  intro above name node found
  simp [empty, get?] at found

/-- There is nothing below where nothing is. -/
theorem Rooted.nothing_below
    {tree : FileTree} {place : Place}
    (rooted : tree.Rooted) (nothing : tree.get? place = none)
    (name : String) :
    tree.get? (place ++ [name]) = none := by
  cases found : tree.get? (place ++ [name]) with
  | none => rfl
  | some node =>
      rw [rooted found] at nothing
      cases nothing

theorem Rooted.step
    {tree : FileTree} {place next above : Place} {name last : String}
    (rooted : tree.Rooted)
    (found : tree.step place name = .ok next) (below : next = above ++ [last]) :
    tree.get? above = some .directory ∨ next = place := by
  unfold FileTree.step at found
  split at found
  · cases found
  · cases found
  · rename_i standing
    split at found
    · exact .inr (Except.ok.inj found).symm
    · split at found
      · left
        -- The directory above the place is there, and so is the one above it.
        have up : place.dropLast = above ++ [last] :=
          (Except.ok.inj found).trans below
        rcases List.eq_nil_or_concat place with rfl | ⟨home, own, rfl⟩
        · simp at up
        · rw [List.concat_eq_append, List.dropLast_concat] at up
          rw [List.concat_eq_append] at standing
          have parent := rooted standing
          rw [up] at parent
          exact rooted parent
      · split at found
        · cases found
        · left
          have down : place ++ [name] = above ++ [last] :=
            (Except.ok.inj found).trans below
          rw [← (List.append_inj' down rfl).1]
          exact standing

/-- A path leads to a place in a directory, or to the root. -/
theorem Rooted.follow
    {tree : FileTree} {path : Path} {above : Place} {last : String}
    (rooted : tree.Rooted)
    (found : tree.follow path = .ok (above ++ [last])) :
    tree.get? above = some .directory := by
  unfold FileTree.follow at found
  have held (start : Place)
      (inside :
        ∀ above last, start = above ++ [last] →
          tree.get? above = some .directory)
      (led : path.foldlM tree.step start = .ok (above ++ [last])) :
      tree.get? above = some .directory := by
    clear found
    induction path generalizing start with
    | nil => exact inside _ _ (Except.ok.inj led)
    | cons name rest ih =>
        rw [List.foldlM_cons] at led
        obtain ⟨next, first, others⟩ := bind_eq_ok_iff.mp led
        apply ih next _ others
        intro home own below
        rcases rooted.step first below with standing | same
        · exact standing
        · exact inside home own (same ▸ below)
  exact held [] (by simp) found

/-- No action leaves a gap. -/
theorem Action.rooted_after
    {tree : FileTree} (action : Action) (rooted : tree.Rooted) :
    (action.after tree).Rooted := by
  intro above name node found
  apply action.keeps_after tree
  by_cases touched : above ++ [name] ∈ action.touched tree
  · obtain ⟨⟨path, -, led⟩, -⟩ := of_mem_touched touched
    exact rooted.follow (locate_eq_ok_iff.mp led).2
  · rw [get?_after_of_not_mem touched] at found
    exact rooted found

/-! ## Paths that lead nowhere -/

/-- Entering a path ends where nothing is. -/
def Vacant (tree : FileTree) (path : Path) : Prop :=
  tree.follow (path ++ ["."]) = .error .notFound

/-- A name that leads down. -/
def Descends (name : String) : Prop :=
  IsPlain name ∧ name.utf8ByteSize ≤ Path.maxNameSize

/-- A path comes to where nothing is, and these names of it are left. -/
def Lacks (tree : FileTree) (path names : Path) : Prop :=
  ∃ above place,
    path = above ++ names ∧ tree.follow above = .ok place ∧
      tree.get? place = none

theorem follow_nothing
    {tree : FileTree} {above : Path} {place : Place}
    (led : tree.follow above = .ok place)
    (nothing : tree.get? place = none) (name : String) (rest : Path) :
    tree.follow (above ++ name :: rest) = .error .notFound := by
  unfold follow at led ⊢
  rw [List.foldlM_append, led]
  simp [step, nothing, bind, Except.bind]

/-- A path that comes to where nothing is leads nowhere in both trees. -/
theorem Lacks.sameAt
    {before after : FileTree} {path plain above names : Path} {place : Place}
    (goes : ∀ tree : FileTree, tree.follow path = tree.follow plain)
    (split : plain = above ++ names)
    (led : before.follow above = .ok place)
    (nothing : before.get? place = none)
    (keeps : Keeps before after) (still : after.get? place = none)
    (refused : after.refused = before.refused) :
    SameAt path before after := by
  have later := keeps.follow led
  have same :
      after.follow path = before.follow path ∧
        ∀ {found}, before.follow path = .ok found → found = place := by
    rw [goes, goes, split]
    cases names with
    | nil =>
        rw [List.append_nil, led, later]
        exact ⟨rfl, fun equal => (Except.ok.inj equal).symm⟩
    | cons name rest =>
        rw [follow_nothing led nothing, follow_nothing later still]
        exact ⟨rfl, fun missed => by cases missed⟩
  refine ⟨refused, ?_, ?_⟩
  · have equal := same.1
    simp only [follow] at equal
    simp only [FileTree.locate, equal]
  · intro found located
    rw [same.2 (locate_eq_ok_iff.mp located).2, still, nothing]

theorem step_descends
    {tree : FileTree} {place : Place} {name : String}
    (standing : tree.get? place = some .directory) (descends : Descends name) :
    tree.step place name = .ok (place ++ [name]) := by
  obtain ⟨⟨here, up⟩, short⟩ := descends
  simp [step, standing, here, up, Nat.not_lt.mpr short]

/--
A path that comes to where nothing is does so still after an action that at
most makes a directory on it, and only goes down from there.
-/
theorem Lacks.after
    {tree : FileTree} {path names : Path} {action : Action}
    (rooted : tree.Rooted) (lacks : tree.Lacks path names)
    (descends : ∀ name ∈ names, Descends name)
    (makes :
      ∀ {above place}, path = above ++ names → tree.follow above = .ok place →
        tree.get? place = none → place ∈ action.touched tree →
          names ≠ [] ∧ ∃ target, action = .make target) :
    ∃ fewer, (action.after tree).Lacks path fewer ∧ fewer ⊆ names := by
  obtain ⟨above, place, split, led, nothing⟩ := lacks
  have later := (action.keeps_after tree).follow led
  by_cases touched : place ∈ action.touched tree
  · obtain ⟨more, target, rfl⟩ := makes split led nothing touched
    cases names with
    | nil => exact absurd rfl more
    | cons name rest =>
        have standing := Action.get?_after_make touched
        have below :
            ((Action.make target).after tree).get? (place ++ [name]) =
              none := by
          rw [Action.get?_after_of_not_mem, rooted.nothing_below nothing]
          intro member
          obtain ⟨⟨other, -, reached⟩, -⟩ := Action.of_mem_touched member
          have parent := rooted.follow (locate_eq_ok_iff.mp reached).2
          rw [nothing] at parent
          cases parent
        refine ⟨rest, ⟨above ++ [name], place ++ [name], ?_, ?_, below⟩, ?_⟩
        · simp [split]
        · have next := step_descends standing (descends name (by simp))
          unfold follow at later ⊢
          rw [List.foldlM_append, later]
          simp [next, bind, Except.bind, pure, Except.pure]
        · exact List.subset_cons_self _ _
  · refine ⟨names, ⟨above, place, split, later, ?_⟩, fun _ member => member⟩
    rw [Action.get?_after_of_not_mem touched, nothing]

end ShaderSynth.FileTree
