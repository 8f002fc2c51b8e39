import Mathlib.Logic.Relation
import ShaderSynth.Proofs.Cache.Discipline
import ShaderSynth.Proofs.Cache.Saving
import ShaderSynth.Proofs.Store.Whole

/-!
# Saving in the background

A cache goes on while its entries are saved: each save is a task of its own,
which takes its actions whenever it likes.  Only waiting for a task can hold
up the cache.  Still, whenever no task is left, the files are as if every
entry had been saved at once, no matter how the tasks and the cache took
turns.  Nobody ever finds half an entry, and the cache never gets stuck.
-/

namespace ShaderSynth.Cache

open FileTree Store

/-! ## Effects on files -/

theorem performAll_concat
    (base : String) (stamp : Stamp) (performed : List Effect)
    (effect : Effect) (tree : FileTree) :
    (performAll base stamp (performed ++ [effect]) tree).tree =
      (effect.perform base stamp
        (performAll base stamp performed tree).tree).tree := by
  rw [performAll_append]
  rfl

theorem Effect.perform_discard
    (base : String) (stamp : Stamp) (digest : UInt64) (tree : FileTree) :
    ((Effect.discard digest).perform base stamp tree).tree =
      (Action.drop (entryPath base digest)).after tree := by
  rw [after_drop_entry]
  unfold perform
  dsimp only
  cases remove base digest tree <;> rfl

theorem Effect.perform_publish
    (base : String) (stamp : Stamp) (digests : List UInt64)
    (tree : FileTree) :
    ((Effect.publish digests).perform base stamp tree).tree =
      (writeIndex base digests tree).2 := by
  unfold perform
  dsimp only
  rcases writeIndex base digests tree with ⟨problem | ⟨⟨⟩⟩, later⟩ <;> rfl

/-! ## A cache and its tasks -/

/-- A cache at work, and the tasks it has started. -/
structure World where
  /-- The effects that the cache is done with. -/
  performed : List Effect
  /-- The effects that are still to come. -/
  todo : List Effect
  tree : FileTree
  /-- The tasks that have not ended. -/
  tasks : List Task
  /-- The digests whose tasks can be waited for. -/
  handles : List UInt64

/-- Whether the cache carries out an effect itself, without waiting. -/
def Effect.IsDirect : Effect → Prop
  | .report _ | .discard _ | .publish _ => True
  | .save _ _ | .await _ | .awaitAll => False

namespace World

/-- One thing that can happen. -/
inductive Step (base : String) (stamp : Stamp) : World → World → Prop where
  /-- A task takes its next action. -/
  | advance
      {performed todo : List Effect} {tree : FileTree}
      {before behind : List Task} {handles : List UInt64}
      (task : Task) (more : Nat) :
      Step base stamp
        ⟨performed, todo, tree, before ++ task :: behind, handles⟩
        ⟨performed, todo, (task.advance base more tree).2,
          before ++ (task.advance base more tree).1.toList ++ behind, handles⟩
  /-- The cache carries out an effect itself. -/
  | direct
      {performed rest : List Effect} {tree : FileTree} {tasks : List Task}
      {handles : List UInt64} {effect : Effect}
      (direct : effect.IsDirect) :
      Step base stamp
        ⟨performed, effect :: rest, tree, tasks, handles⟩
        ⟨performed ++ [effect], rest, (effect.perform base stamp tree).tree,
          tasks, handles⟩
  /-- The cache starts a task, and forgets about some that have ended. -/
  | save
      {performed rest : List Effect} {tree : FileTree} {tasks : List Task}
      {handles kept : List UInt64} {digest : UInt64} {entry : Entry}
      (fewer : kept ⊆ handles)
      (running :
        ∀ task ∈ tasks, task.digest ∈ handles → task.digest ∈ kept) :
      Step base stamp
        ⟨performed, .save digest entry :: rest, tree, tasks, handles⟩
        ⟨performed ++ [Effect.save digest entry], rest, tree,
          tasks ++ [Task.start base digest (entry.toBytes stamp)], digest :: kept⟩
  /-- The cache waits for a task that it knows of until it has ended. -/
  | await
      {performed rest : List Effect} {tree : FileTree} {tasks : List Task}
      {handles : List UInt64} {digest : UInt64}
      (ended : digest ∈ handles → ∀ task ∈ tasks, task.digest ≠ digest) :
      Step base stamp
        ⟨performed, .await digest :: rest, tree, tasks, handles⟩
        ⟨performed ++ [Effect.await digest], rest, tree, tasks,
          handles.filter (· ≠ digest)⟩
  /-- The cache waits for all tasks that it knows of. -/
  | awaitAll
      {performed rest : List Effect} {tree : FileTree} {tasks : List Task}
      {handles : List UInt64}
      (ended : ∀ digest ∈ handles, ∀ task ∈ tasks, task.digest ≠ digest) :
      Step base stamp
        ⟨performed, .awaitAll :: rest, tree, tasks, handles⟩
        ⟨performed ++ [Effect.awaitAll], rest, tree, tasks, []⟩

/-- What things happening one after the other can lead to. -/
def Reaches (base : String) (stamp : Stamp) : World → World → Prop :=
  Relation.ReflTransGen (Step base stamp)

/-- A cache that has effects to carry out, and no tasks so far. -/
def start (effects : List Effect) (tree : FileTree) : World :=
  ⟨[], effects, tree, [], []⟩

/-! ## What holds all the time -/

/-- Bytes are all of an entry that is saved for a digest. -/
def SavedBy
    (stamp : Stamp) (effects : List Effect) (digest : UInt64)
    (bytes : List UInt8) : Prop :=
  ∃ entry, .save digest entry ∈ effects ∧ bytes = entry.toBytes stamp

/-- What holds at all times of a run. -/
structure Consistent
    (base : String) (stamp : Stamp) (staged : List UInt64)
    (effects : List Effect) (initial : FileTree) (world : World) : Prop where
  effects_eq : world.performed ++ world.todo = effects
  apart : Task.Apart base world.tree world.tasks
  held : ∀ task ∈ world.tasks, task.digest ∈ world.handles
  saved :
    ∀ task ∈ world.tasks, SavedBy stamp effects task.digest task.bytes
  ready : ∀ digest ∈ staged, Ready base world.tree digest
  disciplined :
    Disciplined staged (world.tasks.map Task.digest) world.todo
  whole : Whole base initial (SavedBy stamp effects) world.tree
  /-- Once all tasks are run to their ends, the files are as they should be. -/
  finished :
    Alike (Task.finishAll base world.tasks world.tree)
      (performAll base stamp world.performed initial).tree
  /-- No task is started together with writing the index. -/
  idle :
    ∀ digests, world.performed.getLast? = some (.publish digests) →
      world.tasks = []

namespace Consistent

variable {base : String} {stamp : Stamp} {staged : List UInt64}
  {effects : List Effect} {initial : FileTree}

theorem start
    (disciplined : Disciplined staged [] effects)
    (ready : ∀ digest ∈ staged, Ready base initial digest) :
    Consistent base stamp staged effects initial
      (World.start effects initial) where
  effects_eq := rfl
  apart := ⟨List.nodup_nil, by simp [World.start]⟩
  held := by simp [World.start]
  saved := by simp [World.start]
  ready := ready
  disciplined := disciplined
  whole := whole_initial
  finished := .refl _
  idle := by simp [World.start]

section Steps

variable {performed todo rest : List Effect} {tree : FileTree}
  {tasks before behind : List Task} {handles : List UInt64}
  {digest : UInt64}

theorem advance
    {task : Task}
    (consistent :
      Consistent base stamp staged effects initial
        ⟨performed, todo, tree, before ++ task :: behind, handles⟩)
    (more : Nat) :
    Consistent base stamp staged effects initial
      ⟨performed, todo, (task.advance base more tree).2,
        before ++ (task.advance base more tree).1.toList ++ behind,
        handles⟩ := by
  have valid : task.Valid base tree :=
    consistent.apart.valid task (by simp)
  have kept : SavedBy stamp effects task.digest task.bytes :=
    consistent.saved task (by simp)
  constructor
  · exact consistent.effects_eq
  · exact consistent.apart.advance more
  · intro rival member
    obtain ⟨earlier, present, digest, -⟩ := Task.origin_advance member
    rw [digest]
    exact consistent.held earlier present
  · intro rival member
    obtain ⟨earlier, present, digest, bytes⟩ := Task.origin_advance member
    rw [digest, bytes]
    exact consistent.saved earlier present
  · exact fun digest member =>
      (consistent.ready digest member).keeps (Action.keeps_after _ tree)
  · apply consistent.disciplined.mono
    exact (Task.digests_advance base more task tree before behind).subset
  · exact consistent.whole.advance valid kept more
  · exact (consistent.apart.finishAll_advance more).trans consistent.finished
  · intro digests last
    have none := consistent.idle digests last
    simp at none

theorem effects_concat
    {effect : Effect}
    (consistent :
      Consistent base stamp staged effects initial
        ⟨performed, effect :: rest, tree, tasks, handles⟩) :
    (performed ++ [effect]) ++ rest = effects := by
  rw [List.append_assoc]
  exact consistent.effects_eq

theorem save
    {entry : Entry} {kept : List UInt64}
    (consistent :
      Consistent base stamp staged effects initial
        ⟨performed, .save digest entry :: rest, tree, tasks, handles⟩)
    (running : ∀ task ∈ tasks, task.digest ∈ handles → task.digest ∈ kept) :
    Consistent base stamp staged effects initial
      ⟨performed ++ [Effect.save digest entry], rest, tree,
        tasks ++ [Task.start base digest (entry.toBytes stamp)],
        digest :: kept⟩ := by
  obtain ⟨fresh, disciplined⟩ := consistent.disciplined
  have member : .save digest entry ∈ effects := by
    rw [← consistent.effects_eq]
    simp
  constructor
  · exact consistent.effects_concat
  · exact consistent.apart.start fresh _
  · intro task present
    rcases List.mem_append.mp present with earlier | last
    · exact List.mem_cons_of_mem _
        (running task earlier (consistent.held task earlier))
    · rw [List.mem_singleton.mp last]
      exact List.mem_cons_self
  · intro task present
    rcases List.mem_append.mp present with earlier | last
    · exact consistent.saved task earlier
    · rw [List.mem_singleton.mp last]
      exact ⟨entry, member, rfl⟩
  · exact consistent.ready
  · apply disciplined.mono
    simp [Effect.outstanding, Task.start]
  · exact consistent.whole
  · dsimp only
    rw [Task.finishAll_append, performAll_concat]
    apply (Task.finish_alike consistent.finished).trans
    exact Task.finish_start base digest stamp entry _
  · intro digests last
    simp at last

/-- A cache that can go on knows that a task has ended. -/
theorem await
    (consistent :
      Consistent base stamp staged effects initial
        ⟨performed, .await digest :: rest, tree, tasks, handles⟩)
    (ended : digest ∈ handles → ∀ task ∈ tasks, task.digest ≠ digest) :
    Consistent base stamp staged effects initial
      ⟨performed ++ [Effect.await digest], rest, tree, tasks,
        handles.filter (· ≠ digest)⟩ := by
  -- A task that the cache does not know of cannot be running.
  have gone : ∀ task ∈ tasks, task.digest ≠ digest := by
    intro task member same
    have held := consistent.held task member
    rw [same] at held
    exact ended held task member same
  obtain ⟨-, disciplined⟩ := consistent.disciplined
  constructor
  · exact consistent.effects_concat
  · exact consistent.apart
  · intro task member
    rw [List.mem_filter]
    exact ⟨consistent.held task member, by simpa using gone task member⟩
  · exact consistent.saved
  · exact consistent.ready
  · apply disciplined.mono
    intro other member
    obtain ⟨task, present, rfl⟩ := List.mem_map.mp member
    simp only [Effect.outstanding, List.mem_filter]
    exact ⟨member, by simpa using gone task present⟩
  · exact consistent.whole
  · dsimp only
    rw [performAll_concat]
    exact consistent.finished
  · intro digests last
    simp at last

theorem awaitAll
    (consistent :
      Consistent base stamp staged effects initial
        ⟨performed, .awaitAll :: rest, tree, tasks, handles⟩)
    (ended : ∀ digest ∈ handles, ∀ task ∈ tasks, task.digest ≠ digest) :
    Consistent base stamp staged effects initial
      ⟨performed ++ [Effect.awaitAll], rest, tree, tasks, []⟩ := by
  obtain rfl : tasks = [] := by
    apply List.eq_nil_iff_forall_not_mem.mpr
    intro task member
    exact ended _ (consistent.held task member) task member rfl
  obtain ⟨-, disciplined⟩ := consistent.disciplined
  constructor
  · exact consistent.effects_concat
  · exact consistent.apart
  · simp
  · exact consistent.saved
  · exact consistent.ready
  · exact disciplined
  · exact consistent.whole
  · dsimp only
    rw [performAll_concat]
    exact consistent.finished
  · intro digests last
    simp at last

/-- Removing an entry gets into the way of no task. -/
theorem discard
    (consistent :
      Consistent base stamp staged effects initial
        ⟨performed, .discard digest :: rest, tree, tasks, handles⟩) :
    Consistent base stamp staged effects initial
      ⟨performed ++ [Effect.discard digest], rest,
        ((Effect.discard digest).perform base stamp tree).tree, tasks,
        handles⟩ := by
  obtain ⟨⟨free, known⟩, disciplined⟩ := consistent.disciplined
  have proper :
      Proper base tree digest (.drop (entryPath base digest)) :=
    .file (consistent.ready digest known)
      (by simp [Action.paths, filePaths])
  rw [Effect.perform_discard]
  constructor
  · exact consistent.effects_concat
  · exact consistent.apart.after free proper
  · exact consistent.held
  · exact consistent.saved
  · exact fun digest member =>
      (consistent.ready digest member).keeps (Action.keeps_after _ tree)
  · exact disciplined
  · exact consistent.whole.after_drop _
  · dsimp only
    rw [performAll_concat, Effect.perform_discard]
    apply (consistent.apart.finishAll_after free proper).2.trans
    exact consistent.finished.after _
  · intro digests last
    simp at last

theorem publish
    {digests : List UInt64}
    (consistent :
      Consistent base stamp staged effects initial
        ⟨performed, .publish digests :: rest, tree, tasks, handles⟩) :
    Consistent base stamp staged effects initial
      ⟨performed ++ [Effect.publish digests], rest,
        ((Effect.publish digests).perform base stamp tree).tree, tasks,
        handles⟩ := by
  obtain ⟨none, disciplined⟩ := consistent.disciplined
  obtain rfl : tasks = [] := List.map_eq_nil_iff.mp none
  rw [Effect.perform_publish]
  constructor
  · exact consistent.effects_concat
  · exact ⟨List.nodup_nil, by simp⟩
  · simp
  · simp
  · exact fun digest member =>
      (consistent.ready digest member).keeps (keeps_writeIndex base digests tree)
  · exact disciplined
  · exact consistent.whole.writeIndex digests
  · dsimp only
    rw [performAll_concat, Effect.perform_publish]
    exact writeIndex_alike consistent.finished digests
  · exact fun _ _ => rfl

theorem report
    {line : Report}
    (consistent :
      Consistent base stamp staged effects initial
        ⟨performed, .report line :: rest, tree, tasks, handles⟩) :
    Consistent base stamp staged effects initial
      ⟨performed ++ [Effect.report line], rest, tree, tasks, handles⟩ where
  effects_eq := consistent.effects_concat
  apart := consistent.apart
  held := consistent.held
  saved := consistent.saved
  ready := consistent.ready
  disciplined := consistent.disciplined.2
  whole := consistent.whole
  finished := by
    dsimp only
    rw [performAll_concat]
    exact consistent.finished
  idle := by
    intro digests last
    simp at last

end Steps

theorem step
    {world later : World}
    (consistent : Consistent base stamp staged effects initial world)
    (step : Step base stamp world later) :
    Consistent base stamp staged effects initial later := by
  cases step with
  | advance task more => exact consistent.advance more
  | @direct performed rest tree tasks handles effect direct =>
      cases effect with
      | report line => exact consistent.report
      | discard digest => exact consistent.discard
      | publish digests => exact consistent.publish
      | save digest entry => cases direct
      | await digest => cases direct
      | awaitAll => cases direct
  | save fewer running => exact consistent.save running
  | await ended => exact consistent.await ended
  | awaitAll ended => exact consistent.awaitAll ended

theorem reaches
    {world later : World}
    (consistent : Consistent base stamp staged effects initial world)
    (reaches : Reaches base stamp world later) :
    Consistent base stamp staged effects initial later := by
  induction reaches with
  | refl => exact consistent
  | tail _ step ih => exact ih.step step

end Consistent

/-! ## The cache never gets stuck -/

section Progress

variable {base : String} {stamp : Stamp} {performed todo : List Effect}
  {handles : List UInt64}

/-- A task can always be run to its end. -/
theorem exists_ended
    (count : Nat) (task : Task) (tree : FileTree) (behind : List Task)
    (few : task.phase.remaining ≤ count) :
    ∃ later,
      Reaches base stamp ⟨performed, todo, tree, task :: behind, handles⟩
        ⟨performed, todo, later, behind, handles⟩ := by
  induction count generalizing task tree with
  | zero => exact absurd task.phase.remaining_pos (by omega)
  | succ count ih =>
      have turn :
          Step base stamp ⟨performed, todo, tree, [] ++ task :: behind, handles⟩
            _ :=
        .advance task task.bytes.length
      cases entered : (task.advance base task.bytes.length tree).1 with
      | none =>
          rw [entered] at turn
          exact ⟨_, .single turn⟩
      | some next =>
          obtain ⟨phase, went, rfl⟩ := Option.map_eq_some_iff.mp entered
          have fewer := Task.remaining_next went
          rw [entered] at turn
          obtain ⟨later, rest⟩ :=
            ih (task.enter phase) (task.advance base _ tree).2
              (Nat.le_of_lt_succ (Nat.lt_of_lt_of_le fewer few))
          exact ⟨later, .head turn rest⟩

theorem exists_all_ended (tasks : List Task) (tree : FileTree) :
    ∃ later,
      Reaches base stamp ⟨performed, todo, tree, tasks, handles⟩
        ⟨performed, todo, later, [], handles⟩ := by
  induction tasks generalizing tree with
  | nil => exact ⟨tree, .refl⟩
  | cons task rest ih =>
      obtain ⟨middle, first⟩ :=
        exists_ended task.phase.remaining task tree rest (Nat.le_refl _)
      obtain ⟨later, others⟩ := ih middle
      exact ⟨later, first.trans others⟩

/-- A cache without tasks can always go on. -/
theorem exists_next
    (effect : Effect) (rest : List Effect) (tree : FileTree) :
    ∃ later,
      Step base stamp ⟨performed, effect :: rest, tree, [], handles⟩ later ∧
        later.todo = rest := by
  cases effect with
  | report line => exact ⟨_, .direct trivial, rfl⟩
  | discard digest => exact ⟨_, .direct trivial, rfl⟩
  | publish digests => exact ⟨_, .direct trivial, rfl⟩
  | save digest entry =>
      exact ⟨_, .save (List.Subset.refl handles) (by simp), rfl⟩
  | await digest => exact ⟨_, .await (by simp), rfl⟩
  | awaitAll => exact ⟨_, .awaitAll (by simp), rfl⟩

end Progress

/-- Nothing but a task that is running can hold up a cache. -/
theorem exists_reached
    {base : String} {stamp : Stamp} {effects : List Effect}
    (light :
      ∀ effect ∈ effects,
        (∃ line, effect = .report line) ∨ ∃ digest, effect = .await digest)
    (performed rest : List Effect) (tree : FileTree)
    (handles : List UInt64) :
    ∃ known,
      Reaches base stamp ⟨performed, effects ++ rest, tree, [], handles⟩
        ⟨performed ++ effects, rest, tree, [], known⟩ := by
  induction effects generalizing performed handles with
  | nil => exact ⟨handles, by rw [List.append_nil]; exact .refl⟩
  | cons effect others ih =>
      have later (known : List UInt64) :=
        ih (fun other member => light other (by simp [member]))
          (performed ++ [effect]) known
      simp only [List.append_assoc, List.singleton_append] at later
      rcases light effect (by simp) with ⟨line, rfl⟩ | ⟨digest, rfl⟩
      · obtain ⟨known, reached⟩ := later handles
        exact ⟨known, .head (.direct trivial) reached⟩
      · obtain ⟨known, reached⟩ := later (handles.filter (· ≠ digest))
        exact ⟨known, .head (.await (by simp)) reached⟩

theorem exists_saving
    {base : String} {stamp : Stamp} {effects : List Effect} {digest : UInt64}
    {entry : Entry}
    (light :
      ∀ effect ∈ effects,
        (∃ line, effect = .report line) ∨ ∃ digest, effect = .await digest)
    (rest : List Effect) (tree : FileTree) :
    ∃ world,
      Reaches base stamp
          (start (effects ++ .save digest entry :: rest) tree) world ∧
        world.tasks = [.start base digest (entry.toBytes stamp)] := by
  obtain ⟨known, reached⟩ :=
    exists_reached light [] (.save digest entry :: rest) tree []
  exact ⟨_, reached.tail (.save (List.Subset.refl known) (by simp)), rfl⟩

/-- Whatever has happened, the cache and its tasks can come to an end. -/
theorem exists_final (base : String) (stamp : Stamp) (world : World) :
    ∃ final,
      Reaches base stamp world final ∧ final.todo = [] ∧ final.tasks = [] := by
  obtain ⟨performed, todo, tree, tasks, handles⟩ := world
  induction todo generalizing performed tree tasks handles with
  | nil =>
      obtain ⟨later, ended⟩ := exists_all_ended tasks tree
      exact ⟨_, ended, rfl, rfl⟩
  | cons effect rest ih =>
      obtain ⟨middle, ended⟩ := exists_all_ended tasks tree
      obtain ⟨⟨done, others, changed, running, known⟩, turn, same⟩ :=
        exists_next effect rest middle
      obtain rfl : others = rest := same
      obtain ⟨final, continued, finished⟩ := ih done changed running known
      exact ⟨final, (ended.tail turn).trans continued, finished⟩

end World

/-! ## Runs of a cache -/

section Runs

variable {device : Type} [Device device]

/-- Emptying a cache that has a directory ends with writing the index. -/
theorem getLast?_flush
    {cache : Cache} (located : cache.settings.directory.isSome = true)
    (host : device) (earlier : List Request) :
    ∃ digests,
      (cache.serveAll host (earlier ++ [.flush])).effects.getLast? =
        some (.publish digests) := by
  have settings := cache.serveAll_settings host earlier
  rw [serveAll_append]
  generalize cache.serveAll host earlier = served at settings ⊢
  rw [← settings] at located
  refine ⟨served.cache.indexDigests, ?_⟩
  simp [serveAll, serve, flush, located]

theorem consistent_start
    (settings : Settings) (base vendor : String) (tree : FileTree)
    (host : device) (requests : List Request) :
    let opened :=
      Cache.start { settings with directory := some base } vendor tree
    let effects := (opened.1.serveAll host requests).effects
    World.Consistent base opened.1.stamp opened.1.waiting effects opened.2
      (World.start effects opened.2) := by
  intro opened effects
  apply World.Consistent.start
  · exact disciplined_serveAll host requests (List.Subset.refl _)
  · intro digest member
    obtain ⟨item, present, rfl⟩ := List.mem_map.mp member
    exact ready_of_preload base ⟨settings.version, vendor⟩ tree item present

/-! ## Saving in the background is saving at once -/

/--
However a cache and the tasks it starts take turns, and however much of its
bytes a task writes at a time:

* no two tasks save entries of the same digest,
* what can be read as an entry was there from the start, or is all of an entry
  saved for the digest,
* there is no task when the index is written,
* after a flush there is no task, and the files are as if every entry had been
  saved at the moment its task was started,
* the cache and the tasks can come to an end.
-/
theorem background_saves_as_at_once
    (settings : Settings) (base vendor : String) (tree : FileTree)
    (host : device) (requests : List Request) :
    let opened :=
      Cache.start { settings with directory := some base } vendor tree
    let stamp := opened.1.stamp
    let effects (served : List Request) :=
      (opened.1.serveAll host served).effects
    ∀ world,
      World.Reaches base stamp (World.start (effects requests) opened.2)
          world →
        (world.tasks.map Task.digest).Nodup ∧
          (∀ digest bytes,
            world.tree.read (entryPath base digest) = .ok bytes →
              (∃ place,
                world.tree.locate (entryPath base digest) = .ok place ∧
                  opened.2.get? place = some (.file bytes)) ∨
                ∃ entry,
                  .save digest entry ∈ effects requests ∧
                    bytes = entry.toBytes stamp) ∧
          (∀ digests rest,
            world.todo = .publish digests :: rest → world.tasks = []) ∧
          (∀ earlier,
            world.performed = effects (earlier ++ [.flush]) →
              world.tasks = [] ∧
                world.tree.Alike
                  (performAll base stamp world.performed opened.2).tree) ∧
          ∃ final,
            World.Reaches base stamp world final ∧
              final.todo = [] ∧ final.tasks = [] := by
  intro opened stamp effects world reached
  have consistent :=
    (consistent_start settings base vendor tree host requests).reaches reached
  refine ⟨consistent.apart.distinct, ?_, ?_, ?_,
    World.exists_final base stamp world⟩
  · intro digest bytes content
    obtain ⟨place, found, file⟩ := read_eq_ok_iff.mp content
    rcases consistent.whole.entry found file with old | saved
    · exact .inl ⟨place, found, old⟩
    · exact .inr saved
  · intro digests rest next
    have disciplined := consistent.disciplined
    rw [next] at disciplined
    exact List.map_eq_nil_iff.mp disciplined.1
  · intro earlier served
    obtain ⟨digests, last⟩ :
        ∃ digests, world.performed.getLast? = some (.publish digests) := by
      rw [served]
      exact getLast?_flush rfl host earlier
    have none := consistent.idle digests last
    have finished := consistent.finished
    rw [none] at finished
    exact ⟨none, finished⟩

end Runs

/-- A program is being saved, and then all is as if it had been at once. -/
theorem background_saves_as_at_once_quadrilaterals :
    let settings : Settings := { fallback := true }
    let opened :=
      Cache.start { settings with directory := some "c" } "" .empty
    let stamp := opened.1.stamp
    let effects :=
      (opened.1.serveAll (Dedicated.new Linker.fallbackSources)
        [.lookup quadrilaterals, .flush]).effects
    ∃ world final,
      World.Reaches "c" stamp (World.start effects opened.2) world ∧
        world.tasks.map Task.digest = [quadrilaterals.digest] ∧
        World.Reaches "c" stamp world final ∧
        final.tasks = [] ∧
        final.tree.Alike (performAll "c" stamp effects opened.2).tree := by
  intro settings opened stamp effects
  let located : Settings := { settings with directory := some "c" }
  have none :
      preload "c" ⟨located.version, ""⟩ .empty = ⟨[], 0, .empty⟩ :=
    preload_spec readIndex_empty List.nodup_nil (by simp)
  have loaded : opened.1 = new located "" ⟨[], 0, .empty⟩ := by
    show new located "" (preload "c" ⟨located.version, ""⟩ .empty) = _
    rw [none]
  have persists : located.persists = true := rfl
  have fallback : located.fallback = true := rfl
  obtain ⟨binary, reports, -, -, quiet, listed⟩ :=
    effects_fallback "" .empty persists fallback
  rw [← loaded] at listed
  have light :
      ∀ effect ∈
          Effect.await quadrilaterals.digest :: reports ++
            [Effect.await quadrilaterals.digest],
        (∃ line, effect = .report line) ∨
          ∃ digest, effect = .await digest := by
    intro effect member
    simp only [List.cons_append, List.mem_cons, List.mem_append,
      List.not_mem_nil, or_false] at member
    rcases member with first | reported | last
    · exact .inr ⟨_, first⟩
    · exact .inl (quiet effect reported)
    · exact .inr ⟨_, last⟩
  have split :
      effects =
        (Effect.await quadrilaterals.digest :: reports ++
          [Effect.await quadrilaterals.digest]) ++
          Effect.save quadrilaterals.digest ⟨quadrilaterals, binary⟩ ::
            [.awaitAll, .publish [quadrilaterals.digest]] := by
    simp only [effects]
    rw [listed]
    simp only [List.append_assoc, List.cons_append, List.nil_append]
  obtain ⟨world, reached, running⟩ :
      ∃ world,
        World.Reaches "c" stamp (World.start effects opened.2) world ∧
          world.tasks =
            [.start "c" quadrilaterals.digest
              (Entry.toBytes stamp ⟨quadrilaterals, binary⟩)] := by
    rw [split]
    exact World.exists_saving light _ opened.2
  have holds :=
    background_saves_as_at_once settings "c" "" .empty
      (Dedicated.new Linker.fallbackSources)
      [.lookup quadrilaterals, .flush]
  obtain ⟨-, -, -, -, final, ended, nothing, -⟩ := holds world reached
  have finished := reached.trans ended
  have consistent :=
    (consistent_start settings "c" "" .empty
      (Dedicated.new Linker.fallbackSources)
      [.lookup quadrilaterals, .flush]).reaches finished
  have performed : final.performed = effects := by
    have whole := consistent.effects_eq
    rw [nothing, List.append_nil] at whole
    exact whole
  obtain ⟨-, -, -, flushed, -⟩ := holds final finished
  obtain ⟨idle, alike⟩ := flushed [.lookup quadrilaterals] performed
  rw [performed] at alike
  refine ⟨world, final, reached, ?_, ended, idle, alike⟩
  rw [running]
  rfl

end ShaderSynth.Cache
