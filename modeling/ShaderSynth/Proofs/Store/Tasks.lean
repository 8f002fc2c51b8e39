import Mathlib.Data.List.Nodup
import ShaderSynth.Proofs.Store.Ladder

/-!
# Saving an entry step by step

A task saves an entry by one action after the other.  It makes the directories
of the entry, opens the temporary file, fills it a few bytes at a time and
moves it into its place.  If an action fails, it clears up behind itself.

A task that is run to its end at once does what `save` does.  What is left to
do for a task commutes with whatever is done for other entries meanwhile.
-/

namespace ShaderSynth.Store

open FileTree

/-! ## Tasks -/

/-- What a task does next. -/
inductive Phase where
  /-- It makes a directory, and then others below it. -/
  | making (path : Path) (rest : List Path)
  /-- It opens the temporary file, which is then empty. -/
  | opening
  /-- It goes on to write the temporary file, of which it has some bytes. -/
  | filling (written : Nat)
  /-- It moves the temporary file into the place of the entry. -/
  | moving
  /-- It removes the temporary file, since that could not be moved. -/
  | clearing
  /-- It removes what is stored of the entry, since saving it failed. -/
  | undoing
deriving DecidableEq, Repr

namespace Phase

/-- The phase with directories left to make. -/
def climb : List Path → Phase
  | [] => opening
  | path :: rest => making path rest

/-- The phase with a part of the bytes written. -/
def fill (size written : Nat) : Phase :=
  if written < size then filling written else moving

/-- How many actions are left at most, if the bytes are written at once. -/
def remaining : Phase → Nat
  | making _ rest => rest.length + 6
  | opening => 5
  | filling _ => 4
  | moving => 3
  | clearing => 2
  | undoing => 1

theorem remaining_climb (paths : List Path) :
    (climb paths).remaining = paths.length + 5 := by
  cases paths <;> rfl

theorem remaining_fill_le (size written : Nat) :
    (fill size written).remaining ≤ 4 := by
  unfold fill
  split <;> simp [remaining]

theorem remaining_pos (phase : Phase) : 0 < phase.remaining := by
  cases phase <;> exact Nat.succ_pos _

end Phase

/-- The bytes of an entry on their way into a file. -/
structure Task where
  digest : UInt64
  bytes : List UInt8
  phase : Phase
deriving DecidableEq, Repr

namespace Task

/-- A task that has done nothing so far. -/
def start (base : String) (digest : UInt64) (bytes : List UInt8) : Task :=
  ⟨digest, bytes, .climb (rungs base digest)⟩

/-- The task in another phase. -/
def enter (task : Task) (phase : Phase) : Task :=
  { task with phase }

/-- The next action; of the bytes, one and so many more are written. -/
def action (base : String) (more : Nat) (task : Task) : Action :=
  match task.phase with
  | .making path _ => .make path
  | .opening => .put (temporaryPath base task.digest) []
  | .filling written =>
      .put (temporaryPath base task.digest)
        (task.bytes.take (written + 1 + more))
  | .moving =>
      .move (temporaryPath base task.digest) (entryPath base task.digest)
  | .clearing => .drop (temporaryPath base task.digest)
  | .undoing => .drop (entryPath base task.digest)

/-- The phase after the next action, unless it is the last. -/
def next (more : Nat) (task : Task) (done : Bool) : Option Phase :=
  match task.phase, done with
  | .making _ rest, true => some (.climb rest)
  | .opening, true => some (.fill task.bytes.length 0)
  | .filling written, true =>
      some (.fill task.bytes.length (written + 1 + more))
  | .moving, true => none
  | .moving, false => some .clearing
  | .clearing, _ => some .undoing
  | .undoing, _ => none
  | _, false => some .undoing

/-- Takes the next action. -/
def advance (base : String) (more : Nat) (task : Task) (tree : FileTree) :
    Option Task × FileTree :=
  let action := task.action base more
  ((task.next more (action.succeeds tree)).map task.enter, action.after tree)

/-- Takes so many actions. -/
def run (base : String) : Nat → Task → FileTree → FileTree
  | 0, _, tree => tree
  | count + 1, task, tree =>
      match task.advance base task.bytes.length tree with
      | (none, later) => later
      | (some task, later) => run base count task later

/-- Runs a task to its end. -/
def finish (base : String) (task : Task) (tree : FileTree) : FileTree :=
  task.run base task.phase.remaining tree

variable {base : String} {task : Task} {tree : FileTree}

theorem remaining_next
    {phase : Phase} {done : Bool}
    (entered : task.next task.bytes.length done = some phase) :
    phase.remaining < task.phase.remaining := by
  obtain ⟨digest, bytes, current⟩ := task
  cases current with
  | making path rest =>
      cases done <;> cases entered
      · simp [Phase.remaining]
      · rw [Phase.remaining_climb]
        exact Nat.lt_succ_self _
  | opening =>
      cases done <;> cases entered
      · simp [Phase.remaining]
      · exact Nat.lt_succ_of_le (Phase.remaining_fill_le _ _)
  | filling written =>
      cases done <;> cases entered
      · simp [Phase.remaining]
      · have whole : ¬ written + 1 + bytes.length < bytes.length := by omega
        simp [Phase.fill, whole, Phase.remaining]
  | moving =>
      cases done <;> cases entered
      exact Nat.lt_succ_self _
  | clearing =>
      cases done <;> cases entered
      · exact Nat.lt_succ_self _
      · exact Nat.lt_succ_self _
  | undoing => cases done <;> cases entered

theorem run_eq_run
    {first second : Nat}
    (fewer : task.phase.remaining ≤ first)
    (less : task.phase.remaining ≤ second) :
    task.run base first tree = task.run base second tree := by
  induction first generalizing second task tree with
  | zero => exact absurd task.phase.remaining_pos (by omega)
  | succ count ih =>
      cases second with
      | zero => exact absurd task.phase.remaining_pos (by omega)
      | succ other =>
          unfold run advance
          dsimp only
          cases entered : task.next task.bytes.length _ with
          | none => rfl
          | some phase =>
              have fewer := remaining_next entered
              apply ih
              · simp only [enter]
                omega
              · simp only [enter]
                omega

/-- Finishes what an action left to do. -/
def settle (base : String) : Option Task × FileTree → FileTree
  | (none, later) => later
  | (some task, later) => task.finish base later

/-- A task is finished by taking its next action and finishing the rest. -/
theorem finish_eq (base : String) (task : Task) (tree : FileTree) :
    task.finish base tree =
      settle base (task.advance base task.bytes.length tree) := by
  have positive := task.phase.remaining_pos
  unfold finish
  cases count : task.phase.remaining with
  | zero => omega
  | succ others =>
      rw [run]
      unfold advance
      dsimp only
      cases entered : task.next task.bytes.length _ with
      | none => rfl
      | some phase =>
          have fewer := remaining_next entered
          apply run_eq_run
          · simp only [enter]
            omega
          · exact Nat.le_refl _

theorem run_alike
    {left right : FileTree} (alike : Alike left right) (count : Nat) :
    Alike (task.run base count left) (task.run base count right) := by
  induction count generalizing task left right with
  | zero => exact alike
  | succ count ih =>
      unfold run advance
      dsimp only
      rw [alike.succeeds]
      cases task.next task.bytes.length _ with
      | none => exact alike.after _
      | some phase => exact ih (alike.after _)

theorem finish_alike {left right : FileTree} (alike : Alike left right) :
    Alike (task.finish base left) (task.finish base right) :=
  run_alike alike _

/-! ## Stopping on the way -/

variable {digest : UInt64} {bytes : List UInt8}

theorem finish_undoing (digest : UInt64) (bytes : List UInt8) :
    finish base ⟨digest, bytes, .undoing⟩ tree =
      (Action.drop (entryPath base digest)).after tree := by
  rw [finish_eq]
  rfl

/-- However much of a file is there, it is moved when all of it is. -/
theorem finish_fill
    {first : List UInt8} (written : Nat)
    (opened :
      (Action.put (temporaryPath base digest) first).succeeds tree = true) :
    Alike
      (finish base ⟨digest, bytes, .fill bytes.length written⟩
        ((Action.put (temporaryPath base digest) (bytes.take written)).after
          tree))
      (finish base ⟨digest, bytes, .moving⟩
        ((Action.put (temporaryPath base digest) bytes).after tree)) := by
  unfold Phase.fill
  split
  · rename_i partly
    rw [Action.succeeds_put _ _ _ (bytes.take written)] at opened
    obtain ⟨again, alike⟩ := Action.put_put opened bytes
    have all : bytes.take (written + 1 + bytes.length) = bytes :=
      List.take_of_length_le (by omega)
    have whole : ¬ written + 1 + bytes.length < bytes.length := by omega
    rw [finish_eq]
    simp only [advance, action, all, again, next, Phase.fill, whole, if_false,
      Option.map_some, enter, settle]
    exact finish_alike alike
  · rename_i whole
    rw [List.take_of_length_le (Nat.le_of_not_lt whole)]
    exact .refl _

/-- How the bytes are divided makes no difference in the end. -/
theorem settle_advance (base : String) (more : Nat) (task : Task)
    (tree : FileTree) :
    Alike (settle base (task.advance base more tree))
      (task.finish base tree) := by
  rw [finish_eq]
  obtain ⟨digest, bytes, phase⟩ := task
  cases phase with
  | filling written =>
      have all : bytes.take (written + 1 + bytes.length) = bytes :=
        List.take_of_length_le (by omega)
      have whole : ¬ written + 1 + bytes.length < bytes.length := by omega
      simp only [advance, action, all]
      rw [Action.succeeds_put _ _ (bytes.take (written + 1 + more)) bytes]
      cases opened :
          (Action.put (temporaryPath base digest) bytes).succeeds tree with
      | false =>
          have partly := opened
          rw [Action.succeeds_put _ _ bytes
            (bytes.take (written + 1 + more))] at partly
          apply finish_alike
          exact (Action.alike_of_fails partly).trans
            (Action.alike_of_fails opened).symm
      | true =>
          simp only [next, Phase.fill, whole, if_false, Option.map_some, enter,
            settle]
          exact finish_fill (written + 1 + more) opened
  | making path rest =>
      simp only [advance, action]
      cases Action.succeeds _ tree <;> exact .refl _
  | opening =>
      simp only [advance, action]
      cases Action.succeeds _ tree <;> exact .refl _
  | moving =>
      simp only [advance, action]
      cases Action.succeeds _ tree <;> exact .refl _
  | clearing => exact .refl _
  | undoing => exact .refl _

/-! ## A task at once -/

theorem finish_making (path : Path) (rest : List Path) (tree : FileTree) :
    finish base ⟨digest, bytes, .making path rest⟩ tree =
      match tree.makeDirectory path with
      | .ok later => finish base ⟨digest, bytes, .climb rest⟩ later
      | .error _ => (Action.drop (entryPath base digest)).after tree := by
  rw [finish_eq]
  simp only [advance, action]
  cases made : tree.makeDirectory path with
  | error problem =>
      have ran : (Action.make path).run tree = .error problem := made
      obtain ⟨fails, same⟩ := Action.of_run_eq_error ran
      rw [fails, same]
      exact finish_undoing digest bytes
  | ok later =>
      have ran : (Action.make path).run tree = .ok later := made
      obtain ⟨succeeds, rfl⟩ := Action.of_run_eq_ok ran
      rw [succeeds]
      rfl

theorem finish_climb (paths : List Path) (tree : FileTree) :
    finish base ⟨digest, bytes, .climb paths⟩ tree =
      match tree.makeEach paths with
      | (.ok (), later) => finish base ⟨digest, bytes, .opening⟩ later
      | (.error _, later) =>
          (Action.drop (entryPath base digest)).after later := by
  induction paths generalizing tree with
  | nil => rfl
  | cons path rest ih =>
      rw [Phase.climb, finish_making, makeEach]
      cases tree.makeDirectory path with
      | error problem => rfl
      | ok later => exact ih later

theorem finish_opening (tree : FileTree) :
    Alike (finish base ⟨digest, bytes, .opening⟩ tree)
      (match tree.write (temporaryPath base digest) bytes with
      | .ok later => finish base ⟨digest, bytes, .moving⟩ later
      | .error _ => (Action.drop (entryPath base digest)).after tree) := by
  let put := Action.put (temporaryPath base digest)
  rw [finish_eq]
  simp only [advance, action]
  rw [Action.succeeds_put tree _ [] bytes]
  cases written : tree.write (temporaryPath base digest) bytes with
  | error problem =>
      have ran : (put bytes).run tree = .error problem := written
      obtain ⟨fails, -⟩ := Action.of_run_eq_error ran
      have unopened := fails
      rw [Action.succeeds_put tree _ bytes []] at unopened
      rw [fails]
      simp only [next, Option.map_some, enter, settle]
      rw [finish_undoing]
      exact (Action.alike_of_fails unopened).after _
  | ok later =>
      have ran : (put bytes).run tree = .ok later := written
      obtain ⟨succeeds, rfl⟩ := Action.of_run_eq_ok ran
      rw [succeeds]
      exact finish_fill 0 succeeds

theorem finish_moving (tree : FileTree) :
    finish base ⟨digest, bytes, .moving⟩ tree =
      match
        tree.rename (temporaryPath base digest) (entryPath base digest) with
      | .ok later => later
      | .error _ =>
          (Action.drop (entryPath base digest)).after
            ((Action.drop (temporaryPath base digest)).after tree) := by
  let move := Action.move (temporaryPath base digest) (entryPath base digest)
  rw [finish_eq]
  simp only [advance, action]
  cases moved :
      tree.rename (temporaryPath base digest) (entryPath base digest) with
  | error problem =>
      have ran : move.run tree = .error problem := moved
      obtain ⟨fails, same⟩ := Action.of_run_eq_error ran
      rw [fails, same]
      simp only [next, Option.map_some, enter, settle]
      rw [finish_eq]
      exact finish_undoing digest bytes
  | ok later =>
      have ran : move.run tree = .ok later := moved
      obtain ⟨succeeds, rfl⟩ := Action.of_run_eq_ok ran
      rw [succeeds]
      rfl

theorem makeEach_rungs (base : String) (digest : UInt64) (tree : FileTree) :
    tree.makeEach (rungs base digest) =
      tree.makeDirectories (directoryPath base digest) := by
  unfold rungs makeDirectories
  cases flaw : (directoryPath base digest).flaw? with
  | none => simp [flaw]
  | some problem =>
      simp [makeEach, makeDirectory, locate, flaw, bind, Except.bind]

/-- A task that is run to its end at once saves its entry. -/
theorem finish_start
    (base : String) (digest : UInt64) (stamp : Stamp) (entry : Entry)
    (tree : FileTree) :
    Alike ((start base digest (entry.toBytes stamp)).finish base tree)
      (save base digest stamp entry tree) := by
  unfold start save write
  rw [finish_climb, makeEach_rungs]
  dsimp only
  rw [directoryPath]
  rcases tree.makeDirectories (pathBelow base (directoryNames digest)) with
    ⟨problem | ⟨⟨⟩⟩, made⟩
  · dsimp only
    rw [after_drop_entry]
    exact .refl _
  · apply (finish_opening made).trans
    dsimp only
    rw [temporaryPath]
    cases made.write (pathBelow base (temporaryNames digest))
        (entry.toBytes stamp) with
    | error problem =>
        dsimp only
        rw [after_drop_entry]
        exact .refl _
    | ok written =>
        dsimp only
        rw [finish_moving, temporaryPath, entryPath]
        cases written.rename (pathBelow base (temporaryNames digest))
            (pathBelow base (entryNames digest)) with
        | ok moved => exact .refl _
        | error problem =>
            dsimp only
            rw [← entryPath, after_drop_entry]
            exact .refl _

/-! ## Tasks beside each other -/

/-- What a task relies on. -/
def Valid (base : String) (tree : FileTree) (task : Task) : Prop :=
  match task.phase with
  | .making path rest =>
      ∃ made,
        rungs base task.digest = made ++ path :: rest ∧
          ∀ rung ∈ made, tree.Stands rung
  | .opening => Ready base tree task.digest
  | .filling written =>
      Ready base tree task.digest ∧
        tree.read (temporaryPath base task.digest) =
          .ok (task.bytes.take written)
  | .moving =>
      Ready base tree task.digest ∧
        tree.read (temporaryPath base task.digest) = .ok task.bytes
  | .clearing => Ready base tree task.digest
  | .undoing =>
      Ready base tree task.digest ∨ Blocked base tree task.digest

theorem valid_climb
    {made rest : List Path}
    (split : rungs base digest = made ++ rest)
    (standing : ∀ rung ∈ made, tree.Stands rung) :
    Valid base tree ⟨digest, bytes, .climb rest⟩ := by
  cases rest with
  | nil =>
      rw [List.append_nil] at split
      intro path member
      rw [split] at member
      exact standing path member
  | cons path others => exact ⟨made, split, standing⟩

theorem valid_start (base : String) (digest : UInt64) (bytes : List UInt8)
    (tree : FileTree) :
    (start base digest bytes).Valid base tree :=
  valid_climb (List.nil_append _).symm (by simp)

theorem valid_fill
    {written : Nat}
    (ready : Ready base tree digest)
    (content :
      tree.read (temporaryPath base digest) = .ok (bytes.take written)) :
    Valid base tree ⟨digest, bytes, .fill bytes.length written⟩ := by
  unfold Phase.fill
  split
  · exact ⟨ready, content⟩
  · rename_i whole
    rw [List.take_of_length_le (Nat.le_of_not_lt whole)] at content
    exact ⟨ready, content⟩

/-- What a task does next is proper. -/
theorem Valid.proper (valid : task.Valid base tree) (more : Nat) :
    Proper base tree task.digest (task.action base more) := by
  obtain ⟨digest, bytes, phase⟩ := task
  cases phase with
  | making path rest =>
      obtain ⟨made, split, standing⟩ := valid
      exact .make split standing
  | opening => exact .file valid (by simp [action, Action.paths, filePaths])
  | filling written =>
      exact .file valid.1 (by simp [action, Action.paths, filePaths])
  | moving => exact .file valid.1 (by simp [action, Action.paths, filePaths])
  | clearing => exact .file valid (by simp [action, Action.paths, filePaths])
  | undoing =>
      rcases valid with ready | blocked
      · exact .file ready (by simp [action, Action.paths, filePaths])
      · exact .undo blocked

/-- A task relies on nothing that is done for other entries. -/
theorem Valid.after
    {other : UInt64} {rival : Action}
    (valid : task.Valid base tree)
    (different : task.digest ≠ other)
    (proper : Proper base tree other rival) :
    task.Valid base (rival.after tree) := by
  have keeps := rival.keeps_after tree
  have reads {content : List UInt8}
      (held : tree.read (temporaryPath base task.digest) = .ok content) :
      (rival.after tree).read (temporaryPath base task.digest) =
        .ok content := by
    obtain ⟨place, found, file⟩ := read_eq_ok_iff.mp held
    have untouched :=
      proper.untouched_file different (by simp [filePaths]) found file
    rw [read_eq_ok_iff]
    refine ⟨place, keeps.locate found, ?_⟩
    rw [Action.get?_after_of_not_mem untouched, file]
  obtain ⟨digest, bytes, phase⟩ := task
  cases phase with
  | making path rest =>
      obtain ⟨made, split, standing⟩ := valid
      exact ⟨made, split, fun rung member => (standing rung member).keeps keeps⟩
  | opening => exact Ready.keeps valid keeps
  | filling written => exact ⟨valid.1.keeps keeps, reads valid.2⟩
  | moving => exact ⟨valid.1.keeps keeps, reads valid.2⟩
  | clearing => exact Ready.keeps valid keeps
  | undoing =>
      rcases valid with ready | blocked
      · exact .inl (ready.keeps keeps)
      · exact .inr (blocked.after proper)

/-- A task prepares what it relies on later. -/
theorem Valid.advance
    {more : Nat} {phase : Phase}
    (valid : task.Valid base tree)
    (entered :
      task.next more ((task.action base more).succeeds tree) = some phase) :
    (task.enter phase).Valid base ((task.action base more).after tree) := by
  have keeps := (task.action base more).keeps_after tree
  obtain ⟨digest, bytes, current⟩ := task
  cases current with
  | making path rest =>
      obtain ⟨made, split, standing⟩ := valid
      dsimp only at split
      cases succeeds : (Action.make path).succeeds tree with
      | false =>
          simp only [action, succeeds, next] at entered
          cases entered
          exact .inr (blocked_after_make split standing succeeds)
      | true =>
          simp only [action, succeeds, next] at entered
          cases entered
          rw [List.append_cons] at split
          exact valid_climb split (stand_after_make standing succeeds)
  | opening =>
      have ready : Ready base _ digest := Ready.keeps valid keeps
      cases succeeds :
          (Action.put (temporaryPath base digest) []).succeeds tree with
      | false =>
          simp only [action, succeeds, next] at entered
          cases entered
          exact .inl ready
      | true =>
          simp only [action, succeeds, next] at entered
          cases entered
          exact valid_fill ready (Action.read_after_put succeeds)
  | filling written =>
      have ready : Ready base _ digest := valid.1.keeps keeps
      cases succeeds :
          (Action.put (temporaryPath base digest)
            (bytes.take (written + 1 + more))).succeeds tree with
      | false =>
          simp only [action, succeeds, next] at entered
          cases entered
          exact .inl ready
      | true =>
          simp only [action, succeeds, next] at entered
          cases entered
          exact valid_fill ready (Action.read_after_put succeeds)
  | moving =>
      cases succeeds :
          (Action.move (temporaryPath base digest)
            (entryPath base digest)).succeeds tree with
      | false =>
          simp only [action, succeeds, next] at entered
          cases entered
          exact valid.1.keeps keeps
      | true =>
          simp only [action, succeeds, next] at entered
          cases entered
  | clearing =>
      cases entered
      exact .inl (Ready.keeps valid keeps)
  | undoing => cases entered

/-- What is done for another entry can be done before a task goes on. -/
theorem run_after
    {other : UInt64} {rival : Action}
    (valid : task.Valid base tree)
    (different : task.digest ≠ other)
    (proper : Proper base tree other rival) (count : Nat) :
    rival.succeeds (task.run base count tree) = rival.succeeds tree ∧
      Alike (task.run base count (rival.after tree))
        (rival.after (task.run base count tree)) ∧
      Proper base (task.run base count tree) other rival := by
  -- Each action of the task commutes with the other one, which stays proper.
  induction count generalizing task tree with
  | zero => exact ⟨rfl, .refl _, proper⟩
  | succ count ih =>
      have mine := valid.proper task.bytes.length
      have commute := mine.commute different proper
      unfold run advance
      dsimp only
      rw [commute.left]
      cases entered : task.next task.bytes.length _ with
      | none => exact ⟨commute.right, commute.alike, proper.after mine⟩
      | some phase =>
          have later := ih (valid.advance entered) different (proper.after mine)
          refine ⟨later.1.trans commute.right, ?_, later.2.2⟩
          exact (run_alike commute.alike count).trans later.2.1

/-- A task takes nothing away from another. -/
theorem Valid.run
    {rival : Task}
    (valid : task.Valid base tree)
    (foreign : rival.Valid base tree)
    (different : task.digest ≠ rival.digest) (count : Nat) :
    task.Valid base (rival.run base count tree) := by
  induction count generalizing rival tree with
  | zero => exact valid
  | succ count ih =>
      have kept := valid.after different (foreign.proper rival.bytes.length)
      unfold Task.run Task.advance
      dsimp only
      cases entered : rival.next rival.bytes.length _ with
      | none => exact kept
      | some phase => exact ih kept (foreign.advance entered) different

/-! ## Many tasks -/

/-- Runs tasks to their ends, one after the other. -/
def finishAll (base : String) : List Task → FileTree → FileTree
  | [], tree => tree
  | task :: rest, tree => finishAll base rest (task.finish base tree)

theorem finishAll_append
    (base : String) (first second : List Task) (tree : FileTree) :
    finishAll base (first ++ second) tree =
      finishAll base second (finishAll base first tree) := by
  induction first generalizing tree with
  | nil => rfl
  | cons task rest ih => exact ih (task.finish base tree)

theorem finishAll_alike
    {left right : FileTree} (alike : Alike left right) (tasks : List Task) :
    Alike (finishAll base tasks left) (finishAll base tasks right) := by
  induction tasks generalizing left right with
  | nil => exact alike
  | cons task rest ih => exact ih (finish_alike alike)

/-- What tasks for different entries rely on. -/
structure Apart (base : String) (tree : FileTree) (tasks : List Task) :
    Prop where
  distinct : (tasks.map Task.digest).Nodup
  valid : ∀ task ∈ tasks, task.Valid base tree

theorem Apart.tail
    {rest : List Task} (apart : Apart base tree (task :: rest)) :
    Apart base (task.finish base tree) rest := by
  obtain ⟨fresh, distinct⟩ := List.nodup_cons.mp apart.distinct
  refine ⟨distinct, fun rival member => ?_⟩
  apply (apart.valid rival (by simp [member])).run
  · exact apart.valid task (by simp)
  · intro same
    exact fresh (same ▸ List.mem_map_of_mem member)

/-- What is done for another entry can be done before tasks go on. -/
theorem Apart.finishAll_after
    {other : UInt64} {rival : Action} {tasks : List Task}
    (apart : Apart base tree tasks)
    (different : other ∉ tasks.map Task.digest)
    (proper : Proper base tree other rival) :
    rival.succeeds (finishAll base tasks tree) = rival.succeeds tree ∧
      Alike (finishAll base tasks (rival.after tree))
        (rival.after (finishAll base tasks tree)) := by
  induction tasks generalizing tree with
  | nil => exact ⟨rfl, .refl _⟩
  | cons task rest ih =>
      simp only [List.map_cons, List.mem_cons, not_or] at different
      obtain ⟨succeeds, alike, kept⟩ :=
        run_after (apart.valid task (by simp)) (Ne.symm different.1) proper
          task.phase.remaining
      obtain ⟨others, later⟩ := ih apart.tail different.2 kept
      exact ⟨others.trans succeeds, (finishAll_alike alike rest).trans later⟩

theorem Apart.after
    {other : UInt64} {rival : Action} {tasks : List Task}
    (apart : Apart base tree tasks)
    (different : other ∉ tasks.map Task.digest)
    (proper : Proper base tree other rival) :
    Apart base (rival.after tree) tasks := by
  refine ⟨apart.distinct, fun task member => ?_⟩
  apply (apart.valid task member).after _ proper
  rintro rfl
  exact different (List.mem_map_of_mem member)

theorem Apart.start
    {tasks : List Task}
    (apart : Apart base tree tasks)
    (fresh : digest ∉ tasks.map Task.digest) (bytes : List UInt8) :
    Apart base tree (tasks ++ [Task.start base digest bytes]) := by
  constructor
  · rw [List.map_append, List.nodup_append]
    refine ⟨apart.distinct, by simp, ?_⟩
    intro earlier member last present
    obtain rfl : last = digest := by simpa [Task.start] using present
    rintro rfl
    exact fresh member
  · intro task member
    rcases List.mem_append.mp member with earlier | last
    · exact apart.valid task earlier
    · rw [List.mem_singleton.mp last]
      exact valid_start base digest bytes tree

/-- The digests of tasks of which one went on are among those before. -/
theorem digests_advance
    (base : String) (more : Nat) (task : Task) (tree : FileTree)
    (before behind : List Task) :
    ((before ++ (task.advance base more tree).1.toList ++ behind).map
        Task.digest).Sublist
      ((before ++ task :: behind).map Task.digest) := by
  unfold Task.advance
  dsimp only
  cases task.next more _ with
  | none =>
      simp only [Option.map_none, Option.toList_none, List.append_nil,
        List.map_append, List.map_cons]
      exact (List.Sublist.refl _).append (List.sublist_cons_self _ _)
  | some phase => simp [enter]

/-- A task that went on is for the same bytes. -/
theorem origin_advance
    {more : Nat} {rival : Task} {before behind : List Task}
    (member :
      rival ∈ before ++ (task.advance base more tree).1.toList ++ behind) :
    ∃ earlier ∈ before ++ task :: behind,
      rival.digest = earlier.digest ∧ rival.bytes = earlier.bytes := by
  rw [List.append_assoc, List.mem_append, List.mem_append] at member
  rcases member with earlier | mine | later
  · exact ⟨rival, by simp [earlier], rfl, rfl⟩
  · obtain ⟨phase, -, rfl⟩ :=
      Option.map_eq_some_iff.mp (Option.mem_toList.mp mine)
    exact ⟨task, by simp, rfl, rfl⟩
  · exact ⟨rival, by simp [later], rfl, rfl⟩

theorem Apart.advance
    {before behind : List Task}
    (apart : Apart base tree (before ++ task :: behind)) (more : Nat) :
    Apart base (task.advance base more tree).2
      (before ++ (task.advance base more tree).1.toList ++ behind) := by
  have valid : task.Valid base tree := apart.valid task (by simp)
  have distinct := apart.distinct
  refine ⟨distinct.sublist (digests_advance _ _ _ _ _ _), ?_⟩
  have fresh {rival : Task} (member : rival ∈ before ++ behind) :
      rival.digest ≠ task.digest := by
    rw [List.map_append, List.map_cons, List.nodup_middle, List.nodup_cons,
      ← List.map_append] at distinct
    intro same
    exact distinct.1 (same ▸ List.mem_map_of_mem member)
  have others {rival : Task} (member : rival ∈ before ++ behind) :
      rival.Valid base (task.advance base more tree).2 := by
    refine (apart.valid rival ?_).after (fresh member) (valid.proper more)
    rcases List.mem_append.mp member with earlier | later
    · simp [earlier]
    · simp [later]
  intro rival member
  rw [List.append_assoc, List.mem_append, List.mem_append] at member
  rcases member with earlier | mine | later
  · exact others (by simp [earlier])
  · obtain ⟨phase, entered, rfl⟩ :=
      Option.map_eq_some_iff.mp (Option.mem_toList.mp mine)
    exact valid.advance entered
  · exact others (by simp [later])

/-- It makes no difference in the end which of many tasks goes on. -/
theorem Apart.finishAll_advance
    {before behind : List Task}
    (apart : Apart base tree (before ++ task :: behind)) (more : Nat) :
    Alike
      (finishAll base
        (before ++ (task.advance base more tree).1.toList ++ behind)
        (task.advance base more tree).2)
      (finishAll base (before ++ task :: behind) tree) := by
  have valid : task.Valid base tree := apart.valid task (by simp)
  have distinct := apart.distinct
  rw [List.map_append, List.map_cons] at distinct
  have fresh : task.digest ∉ before.map Task.digest := fun member =>
    (List.nodup_append.mp distinct).2.2 _ member _ (by simp) rfl
  have earlier : Apart base tree before :=
    ⟨(List.nodup_append.mp distinct).1,
      fun rival member => apart.valid rival (by simp [member])⟩
  -- The action moves behind the tasks before, where its task takes it anyway.
  obtain ⟨succeeds, alike⟩ :=
    earlier.finishAll_after fresh (valid.proper more)
  rw [List.append_assoc, finishAll_append, finishAll_append, finishAll_append]
  apply finishAll_alike
  have turn :=
    settle_advance base more task (finishAll base before tree)
  unfold Task.advance at turn ⊢
  dsimp only at turn ⊢
  rw [succeeds] at turn
  cases entered : task.next more ((task.action base more).succeeds tree) with
  | none =>
      rw [entered] at turn
      exact alike.trans turn
  | some phase =>
      rw [entered] at turn
      exact (finish_alike alike).trans turn

end Task

end ShaderSynth.Store
