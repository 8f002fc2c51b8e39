import ShaderSynth.Proofs.Store.Tasks

/-!
# Writing an entry as a plan

A plan takes one action after the other, and how an action went decides what
comes next.  Writing an entry is such a plan.  While a plan does only what is
proper for one entry, it can be exchanged with whatever is done for another:
each comes to the same result before and after the other, and both orders end
in trees that look the same.
-/

namespace ShaderSynth

namespace FileTree

variable {first second : Type}

/-- Two operations come to the same results and the same tree in any order. -/
structure Commute
    (operation : FileTree → first × FileTree)
    (rival : FileTree → second × FileTree)
    (tree : FileTree) : Prop where
  left : (operation (rival tree).2).1 = (operation tree).1
  right : (rival (operation tree).2).1 = (rival tree).1
  alike : Alike (operation (rival tree).2).2 (rival (operation tree).2).2

theorem Alike.keeps {left right : FileTree} (alike : Alike left right) :
    Keeps left right := by
  intro place standing
  rw [← alike.content place, standing]

end FileTree

namespace Store

open FileTree

variable {base : String} {digest other : UInt64} {tree left right : FileTree}
  {action rival : Action}

theorem Blocked.alike
    (blocked : Blocked base left digest) (alike : Alike left right) :
    Blocked base right digest := by
  obtain ⟨path, member, settled, fails⟩ := blocked
  refine ⟨path, member, settled.keeps alike.keeps, ?_⟩
  rw [← alike.succeeds, fails]

/-- What is proper depends on what is found only. -/
theorem Proper.alike
    (proper : Proper base left digest action) (alike : Alike left right) :
    Proper base right digest action := by
  cases proper with
  | make split standing =>
      exact .make split
        fun rung member => (standing rung member).keeps alike.keeps
  | file ready own => exact .file (ready.keeps alike.keeps) own
  | undo blocked => exact .undo (blocked.alike alike)

/-! ## Plans -/

/-- Actions to take, where how one of them went decides about the next. -/
inductive Plan (outcome : Type) where
  | stop (result : outcome)
  | act (action : Action) (next : Bool → Plan outcome)

namespace Plan

variable {outcome verdict : Type} {plan : Plan outcome}

/-- Carries out a plan. -/
def run : Plan outcome → FileTree → outcome × FileTree
  | stop result, tree => (result, tree)
  | act action next, tree =>
      (next (action.succeeds tree)).run (action.after tree)

/-- All that a plan comes to do is proper for an entry. -/
def Allowed (base : String) (digest : UInt64) :
    Plan outcome → FileTree → Prop
  | stop _, _ => True
  | act action next, tree =>
      Proper base tree digest action ∧
        (next (action.succeeds tree)).Allowed base digest (action.after tree)

theorem run_alike (plan : Plan outcome) (alike : Alike left right) :
    (plan.run left).1 = (plan.run right).1 ∧
      Alike (plan.run left).2 (plan.run right).2 := by
  induction plan generalizing left right with
  | stop result => exact ⟨rfl, alike⟩
  | act action next ih =>
      rw [run, run, alike.succeeds action]
      exact ih _ (alike.after action)

theorem Allowed.alike
    (allowed : plan.Allowed base digest left) (alike : Alike left right) :
    plan.Allowed base digest right := by
  induction plan generalizing left right with
  | stop result => trivial
  | act action next ih =>
      obtain ⟨proper, rest⟩ := allowed
      refine ⟨proper.alike alike, ?_⟩
      rw [← alike.succeeds action]
      exact ih _ rest (alike.after action)

/-- A plan stays allowed whatever is done for another entry. -/
theorem Allowed.after
    (allowed : plan.Allowed base digest tree)
    (different : digest ≠ other)
    (proper : Proper base tree other rival) :
    plan.Allowed base digest (rival.after tree) := by
  induction plan generalizing tree with
  | stop result => trivial
  | act action next ih =>
      obtain ⟨mine, rest⟩ := allowed
      have commute := mine.commute different proper
      refine ⟨mine.after proper, ?_⟩
      rw [commute.left]
      exact (ih _ rest (proper.after mine)).alike commute.alike.symm

/-- What is done for another entry can be done before a plan or after it. -/
theorem run_after
    (allowed : plan.Allowed base digest tree)
    (different : digest ≠ other)
    (proper : Proper base tree other rival) :
    (plan.run (rival.after tree)).1 = (plan.run tree).1 ∧
      rival.succeeds (plan.run tree).2 = rival.succeeds tree ∧
      Alike (plan.run (rival.after tree)).2
        (rival.after (plan.run tree).2) := by
  induction plan generalizing tree with
  | stop result => exact ⟨rfl, rfl, .refl _⟩
  | act action next ih =>
      obtain ⟨mine, rest⟩ := allowed
      have commute := mine.commute different proper
      obtain ⟨result, succeeds, alike⟩ := ih _ rest (proper.after mine)
      obtain ⟨same, looks⟩ :=
        (next (action.succeeds tree)).run_alike commute.alike
      rw [run, run, commute.left]
      exact ⟨same.trans result, succeeds.trans commute.right,
        looks.trans alike⟩

/-- Plans for different entries can be carried out in any order. -/
theorem run_commute
    {second : Plan verdict}
    (allowed : plan.Allowed base digest tree)
    (foreign : second.Allowed base other tree)
    (different : digest ≠ other) :
    Commute plan.run second.run tree := by
  -- The first action of the second plan is taken before or after the first
  -- plan; the rest is the same with one action less.
  induction second generalizing tree with
  | stop result => exact ⟨rfl, rfl, .refl _⟩
  | act action next ih =>
      obtain ⟨proper, others⟩ := foreign
      obtain ⟨result, succeeds, alike⟩ := run_after allowed different proper
      have rest := ih _ (allowed.after different proper) others
      obtain ⟨same, looks⟩ :=
        (next (action.succeeds tree)).run_alike alike
      have here :
          (act action next).run (plan.run tree).2 =
            (next (action.succeeds tree)).run
              (action.after (plan.run tree).2) := by
        rw [run, succeeds]
      constructor
      · exact rest.left.trans result
      · rw [here, ← same]
        exact rest.right
      · rw [here]
        exact rest.alike.trans looks

end Plan

/-! ## Writing an entry -/

/-- Makes directories in turn, and goes on if all are there. -/
def Plan.climb {outcome : Type} (done failed : Plan outcome) :
    List Path → Plan outcome
  | [] => done
  | path :: rest =>
      .act (.make path) fun
        | true => climb done failed rest
        | false => failed

theorem Plan.run_climb
    {outcome : Type} (done failed : Plan outcome) (paths : List Path)
    (tree : FileTree) :
    (climb done failed paths).run tree =
      match tree.makeEach paths with
      | (.ok (), later) => done.run later
      | (.error _, later) => failed.run later := by
  induction paths generalizing tree with
  | nil => rfl
  | cons path rest ih =>
      rw [climb, run, makeEach]
      cases made : tree.makeDirectory path with
      | error problem =>
          have ran : (Action.make path).run tree = .error problem := made
          obtain ⟨fails, same⟩ := Action.of_run_eq_error ran
          rw [fails, same]
      | ok later =>
          have ran : (Action.make path).run tree = .ok later := made
          obtain ⟨succeeds, rfl⟩ := Action.of_run_eq_ok ran
          rw [succeeds]
          exact ih _

/-- A climb is allowed if what comes after it is, once directories are there. -/
theorem Plan.allowed_climb
    {outcome : Type} {done failed : Plan outcome} {made rest : List Path}
    (onDone :
      ∀ later, Ready base later digest → done.Allowed base digest later)
    (onFailed : ∀ later, failed.Allowed base digest later)
    (split : rungs base digest = made ++ rest)
    (standing : ∀ rung ∈ made, tree.Stands rung) :
    (climb done failed rest).Allowed base digest tree := by
  induction rest generalizing made tree with
  | nil =>
      apply onDone
      intro path member
      rw [split, List.append_nil] at member
      exact standing path member
  | cons path others ih =>
      refine ⟨.make split standing, ?_⟩
      cases succeeds : (Action.make path).succeeds tree with
      | false => exact onFailed _
      | true =>
          rw [List.append_cons] at split
          exact ih split (stand_after_make standing succeeds)

/-- The plan of moving the temporary file of an entry into its place. -/
def moving (base : String) (digest : UInt64) : Plan (Except StoreError Unit) :=
  .act (.move (temporaryPath base digest) (entryPath base digest)) fun
    | true => .stop (.ok ())
    | false =>
        .act (.drop (temporaryPath base digest)) fun _ =>
          .stop (.error (.moving (Path.join base (entryNames digest))))

/-- The plan of writing the bytes of an entry. -/
def writing (base : String) (digest : UInt64) (bytes : List UInt8) :
    Plan (Except StoreError Unit) :=
  .climb
    (.act (.put (temporaryPath base digest) bytes) fun
      | true => moving base digest
      | false =>
          .stop (.error (.writing (Path.join base (temporaryNames digest)))))
    (.stop (.error (.creating (Path.join base (directoryNames digest)))))
    (rungs base digest)

/-- Writing an entry is carrying out its plan. -/
theorem write_eq_run
    (base : String) (digest : UInt64) (stamp : Stamp) (entry : Entry)
    (tree : FileTree) :
    write base digest stamp entry tree =
      (writing base digest (entry.toBytes stamp)).run tree := by
  unfold writing write
  dsimp only
  rw [Plan.run_climb, Task.makeEach_rungs, directoryPath]
  rcases tree.makeDirectories (pathBelow base (directoryNames digest)) with
    ⟨problem | ⟨⟨⟩⟩, made⟩
  · rfl
  · dsimp only
    simp only [Plan.run, Action.succeeds, Action.after, Action.run,
      temporaryPath]
    cases made.write (pathBelow base (temporaryNames digest))
        (entry.toBytes stamp) with
    | error problem => rfl
    | ok written =>
        simp only [Except.isOk, Except.toBool, moving, Plan.run,
          Action.succeeds, Action.after, Action.run, temporaryPath, entryPath]
        cases written.rename (pathBelow base (temporaryNames digest))
            (pathBelow base (entryNames digest)) with
        | ok moved => rfl
        | error problem => rfl

theorem allowed_writing
    (base : String) (digest : UInt64) (bytes : List UInt8)
    (tree : FileTree) :
    (writing base digest bytes).Allowed base digest tree := by
  apply Plan.allowed_climb _ _ (List.nil_append _).symm (by simp)
  · intro later ready
    refine ⟨.file ready (by simp [Action.paths, filePaths]), ?_⟩
    cases Action.succeeds _ later with
    | false => trivial
    | true =>
        have filled {action : Action} :
            Ready base (action.after later) digest :=
          ready.keeps (action.keeps_after later)
        refine ⟨.file filled (by simp [Action.paths, filePaths]), ?_⟩
        cases Action.succeeds _ _ with
        | true => trivial
        | false =>
            exact ⟨.file (filled.keeps (Action.keeps_after _ _))
              (by simp [Action.paths, filePaths]), trivial⟩
  · intro later
    trivial

/-- Different entries can be written in any order. -/
theorem commute_write
    (different : digest ≠ other) (stamp mark : Stamp) (entry rival : Entry)
    (tree : FileTree) :
    Commute (write base digest stamp entry) (write base other mark rival)
      tree := by
  have same (digest : UInt64) (stamp : Stamp) (entry : Entry) :
      write base digest stamp entry =
        (writing base digest (entry.toBytes stamp)).run :=
    funext (write_eq_run base digest stamp entry)
  rw [same, same]
  exact Plan.run_commute (allowed_writing _ _ _ _) (allowed_writing _ _ _ _)
    different

end Store

end ShaderSynth
