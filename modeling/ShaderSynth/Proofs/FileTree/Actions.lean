import ShaderSynth.Proofs.FileTree

/-!
# Actions on files, and when they commute

An action does one thing to a file tree, and either fails or succeeds.  What
it would do is decided by where its paths lead and by what is found there, so
it is a list of places with what is to be left at each.  It does so unless the
tree refuses one of these changes.  Two actions commute where neither changes
what decides the other.  Trees count as the same if the same is found
everywhere and the same is refused.

Where a path leads is settled once the directory above its end is there: then
nothing that keeps directories has an influence on it.
-/

namespace ShaderSynth.FileTree

/-! ## Trees that look the same -/

/-- The same is found everywhere, and the same is refused. -/
structure Alike (left right : FileTree) : Prop where
  content : ∀ place, left.get? place = right.get? place
  refused : left.refused = right.refused

namespace Alike

variable {left middle right : FileTree}

theorem refl (tree : FileTree) : Alike tree tree :=
  ⟨fun _ => rfl, rfl⟩

theorem symm (alike : Alike left right) : Alike right left :=
  ⟨fun place => (alike.content place).symm, alike.refused.symm⟩

theorem trans (first : Alike left middle) (second : Alike middle right) :
    Alike left right :=
  ⟨fun place => (first.content place).trans (second.content place),
    first.refused.trans second.refused⟩

theorem locate (alike : Alike left right) (path : Path) :
    left.locate path = right.locate path := by
  have steps : left.step = right.step := by
    funext place name
    simp only [step, alike.content place]
  simp only [FileTree.locate, steps]

end Alike

/-! ## Actions -/

/-- One thing done to a file tree. -/
inductive Action where
  | make (path : Path)
  | put (path : Path) (bytes : List UInt8)
  | move (source target : Path)
  | drop (path : Path)
deriving DecidableEq, Repr

namespace Action

/-- Takes an action. -/
def run (tree : FileTree) : Action → Except FileError FileTree
  | make path => tree.makeDirectory path
  | put path bytes => tree.write path bytes
  | move source target => tree.rename source target
  | drop path => tree.remove path

/-- Whether an action can be taken. -/
def succeeds (action : Action) (tree : FileTree) : Bool :=
  (action.run tree).isOk

/-- The tree after an action, which is the same if it fails. -/
def after (action : Action) (tree : FileTree) : FileTree :=
  match action.run tree with
  | .ok later => later
  | .error _ => tree

theorem of_run_eq_ok
    {action : Action} {tree later : FileTree}
    (ran : action.run tree = .ok later) :
    action.succeeds tree = true ∧ action.after tree = later := by
  unfold succeeds after
  rw [ran]
  exact ⟨rfl, rfl⟩

theorem of_run_eq_error
    {action : Action} {tree : FileTree} {problem : FileError}
    (ran : action.run tree = .error problem) :
    action.succeeds tree = false ∧ action.after tree = tree := by
  unfold succeeds after
  rw [ran]
  exact ⟨rfl, rfl⟩

/-- The paths that an action follows. -/
def paths : Action → List Path
  | make path | put path _ | drop path => [path]
  | move source target => [source, target]

/-- What an action would leave at places, from what is found there. -/
def wanted? (tree : FileTree) : Action → Option (List (Place × Option Node))
  | make path =>
      match tree.locate path with
      | .error _ => none
      | .ok place =>
          match tree.get? place with
          | none => some [(place, some .directory)]
          | some .directory => some []
          | some (.file _) => none
  | put path bytes =>
      match tree.locate path with
      | .error _ => none
      | .ok place =>
          if tree.get? place = some .directory then none
          else some [(place, some (.file bytes))]
  | move source target =>
      match tree.locate source, tree.locate target with
      | .ok old, .ok new =>
          match tree.get? old with
          | some (.file bytes) =>
              if tree.get? new = some .directory then none
              else some [(new, some (.file bytes)), (old, none)]
          | _ => none
      | _, _ => none
  | drop path =>
      match tree.locate path with
      | .error _ => none
      | .ok place =>
          match tree.get? place with
          | some (.file _) => some [(place, none)]
          | _ => none

/-- The change that leaves something at a place. -/
def changeTo : Option Node → Change
  | some .directory => .make
  | some (.file _) => .write
  | none => .remove

/-- A tree refuses none of the changes. -/
def permits (tree : FileTree) (edits : List (Place × Option Node)) : Bool :=
  edits.all fun edit => !tree.refused.contains (changeTo edit.2, edit.1)

/-- What an action leaves at the places it changes, unless it fails. -/
def edits? (tree : FileTree) (action : Action) :
    Option (List (Place × Option Node)) :=
  (action.wanted? tree).filter (permits tree)

theorem permits_cons
    (tree : FileTree) (place : Place) (left : Option Node)
    (rest : List (Place × Option Node)) :
    permits tree ((place, left) :: rest) =
      (decide ((changeTo left, place) ∉ tree.refused) &&
        permits tree rest) := by
  rw [permits, List.all_cons, List.contains_eq_mem, decide_not]
  rfl

theorem edits?_of_wanted
    {action : Action} {tree : FileTree} {edits : List (Place × Option Node)}
    (wanted : action.wanted? tree = some edits) :
    action.edits? tree = if permits tree edits then some edits else none := by
  simp only [edits?, wanted, Option.filter]

theorem edits?_of_wanted_single
    {action : Action} {tree : FileTree} {place : Place} {left : Option Node}
    (wanted : action.wanted? tree = some [(place, left)]) :
    action.edits? tree =
      if (changeTo left, place) ∈ tree.refused then none
      else some [(place, left)] := by
  rw [edits?_of_wanted wanted]
  by_cases refused : (changeTo left, place) ∈ tree.refused <;>
    simp [permits, refused]

theorem edits?_of_unwanted
    {action : Action} {tree : FileTree} (unwanted : action.wanted? tree = none) :
    action.edits? tree = none := by
  simp only [edits?, unwanted, Option.filter]

/-- What an action leaves at the places it changes. -/
def edits (action : Action) (tree : FileTree) : List (Place × Option Node) :=
  (action.edits? tree).getD []

/-- The places that an action changes. -/
def touched (action : Action) (tree : FileTree) : List Place :=
  (action.edits tree).map Prod.fst

/-- A result is what the edits say. -/
def Result
    (tree : FileTree) (edits? : Option (List (Place × Option Node)))
    (result : Except FileError FileTree) : Prop :=
  match edits?, result with
  | none, .error _ => True
  | some edits, .ok later =>
      (∀ place,
        later.get? place = (edits.lookup place).getD (tree.get? place)) ∧
      later.refused = tree.refused
  | _, _ => False

theorem get?_set
    (tree : FileTree) {place : Place} (node : Node) (below : place ≠ [])
    (other : Place) :
    (tree.set place node).get? other =
      ((([(place, some node)] : List (Place × Option Node)).lookup other).getD
        (tree.get? other)) := by
  by_cases same : other = place
  · rw [same, get?_set_self _ _ below]
    simp
  · rw [get?_set_of_ne _ _ same]
    simp [List.lookup_cons, beq_false_of_ne same]

theorem get?_erase
    (tree : FileTree) {place : Place} (below : place ≠ []) (other : Place) :
    (tree.erase place).get? other =
      ((([(place, none)] : List (Place × Option Node)).lookup other).getD
        (tree.get? other)) := by
  by_cases same : other = place
  · rw [same, get?_erase_self _ below]
    simp
  · rw [get?_erase_of_ne _ same]
    simp [List.lookup_cons, beq_false_of_ne same]

theorem below_root {tree : FileTree} {place : Place}
    (free : tree.get? place ≠ some .directory) :
    place ≠ [] := by
  rintro rfl
  exact free tree.get?_root

/-- A change at one place is made unless it is refused. -/
theorem result_of_wanted
    {action : Action} {tree later : FileTree} {place : Place}
    {left : Option Node}
    (wanted : action.wanted? tree = some [(place, left)])
    (leaves :
      ∀ other,
        later.get? other =
          (([(place, left)] : List (Place × Option Node)).lookup other).getD
            (tree.get? other))
    (same : later.refused = tree.refused) :
    Result tree (action.edits? tree)
      (tree.unlessRefused (changeTo left) place later) := by
  rw [edits?_of_wanted_single wanted, unlessRefused]
  split
  · trivial
  · exact ⟨leaves, same⟩

theorem result_make (tree : FileTree) (path : Path) :
    Result tree ((make path).edits? tree) (tree.makeDirectory path) := by
  cases found : tree.locate path with
  | error problem =>
      rw [edits?_of_unwanted (by simp only [wanted?, found])]
      simp [makeDirectory, found, Result, bind, Except.bind]
  | ok place =>
      rcases content : tree.get? place with - | - | bytes
      · have below : place ≠ [] := below_root (by rw [content]; simp)
        simp only [makeDirectory, found, content, bind, Except.bind]
        exact result_of_wanted (by simp only [wanted?, found, content])
          (get?_set tree .directory below) rfl
      · have idle : (make path).wanted? tree = some [] := by
          simp only [wanted?, found, content]
        rw [edits?_of_wanted idle]
        simp [permits, makeDirectory, found, content, Result, bind,
          Except.bind]
      · rw [edits?_of_unwanted (by simp only [wanted?, found, content])]
        simp [makeDirectory, found, content, Result, bind, Except.bind]

theorem result_put (tree : FileTree) (path : Path) (bytes : List UInt8) :
    Result tree ((put path bytes).edits? tree) (tree.write path bytes) := by
  cases found : tree.locate path with
  | error problem =>
      rw [edits?_of_unwanted (by simp only [wanted?, found])]
      simp [write, found, Result, bind, Except.bind]
  | ok place =>
      by_cases content : tree.get? place = some .directory
      · rw [edits?_of_unwanted (by simp only [wanted?, found, content, if_true])]
        simp [write, found, content, Result, bind, Except.bind]
      · have written :
            tree.write path bytes =
              tree.unlessRefused .write place
                (tree.set place (.file bytes)) := by
          simp only [write, found, bind, Except.bind]
        rw [written]
        exact result_of_wanted
          (by simp only [wanted?, found, content, if_false])
          (get?_set tree (.file bytes) (below_root content)) rfl

theorem result_drop (tree : FileTree) (path : Path) :
    Result tree ((drop path).edits? tree) (tree.remove path) := by
  cases found : tree.locate path with
  | error problem =>
      rw [edits?_of_unwanted (by simp only [wanted?, found])]
      simp [remove, found, Result, bind, Except.bind]
  | ok place =>
      rcases content : tree.get? place with - | - | bytes
      · rw [edits?_of_unwanted (by simp only [wanted?, found, content])]
        simp [remove, found, content, Result, bind, Except.bind]
      · rw [edits?_of_unwanted (by simp only [wanted?, found, content])]
        simp [remove, found, content, Result, bind, Except.bind]
      · have below : place ≠ [] := below_root (by rw [content]; simp)
        simp only [remove, found, content, bind, Except.bind]
        exact result_of_wanted (by simp only [wanted?, found, content])
          (get?_erase tree below) rfl

theorem Result.failed
    {tree other : FileTree} {result : Except FileError FileTree}
    (failed : Result tree none result) :
    Result other none result := by
  cases result with
  | error problem => trivial
  | ok later => exact failed

/-- Taking a file away neither adds directories nor removes any. -/
theorem keeps_erase
    {tree : FileTree} {place : Place} {bytes : List UInt8}
    (content : tree.get? place = some (.file bytes)) :
    Keeps tree (tree.erase place) ∧ Keeps (tree.erase place) tree := by
  have free : tree.get? place ≠ some .directory := by
    rw [content]
    simp
  constructor
  · exact (changes_erase free).directories
  · intro other standing
    by_cases same : other = place
    · rw [same, get?_erase_self _ (below_root free)] at standing
      cases standing
    · rwa [get?_erase_of_ne _ same] at standing

/-- A file is moved by writing it anew where it is gone. -/
theorem result_move_file
    {tree : FileTree} {source target : Path} {old : Place} {bytes : List UInt8}
    (found : tree.locate source = .ok old)
    (content : tree.get? old = some (.file bytes))
    (permitted : (.remove, old) ∉ tree.refused) :
    Result tree ((move source target).edits? tree)
      ((tree.erase old).write target bytes) := by
  obtain ⟨keeps, back⟩ := keeps_erase content
  have written := result_put (tree.erase old) target bytes
  cases reached : tree.locate target with
  | error problem =>
      have missed : (put target bytes).edits? (tree.erase old) = none := by
        apply edits?_of_unwanted
        cases later : (tree.erase old).locate target with
        | error other => simp only [wanted?, later]
        | ok place =>
            rw [back.locate later] at reached
            cases reached
      rw [missed] at written
      rw [edits?_of_unwanted (by simp only [wanted?, found, reached])]
      exact written.failed
  | ok new =>
      have later := keeps.locate reached
      by_cases standing : tree.get? new = some .directory
      · rw [edits?_of_unwanted
          (by simp only [wanted?, later, keeps standing, if_true])] at written
        rw [edits?_of_unwanted
          (by simp only [wanted?, found, reached, content, standing,
            if_true])]
        exact written.failed
      · have gone : (tree.erase old).get? new ≠ some .directory :=
          fun kept => standing (back kept)
        rw [edits?_of_wanted
          (by simp only [wanted?, later, gone, if_false]; rfl)] at written
        rw [edits?_of_wanted
          (by simp only [wanted?, found, reached, content, standing,
            if_false]; rfl)]
        have same :
            permits tree [(new, some (.file bytes)), (old, none)] =
              permits (tree.erase old) [(new, some (.file bytes))] := by
          simp only [permits_cons, changeTo, permitted, not_false_eq_true,
            decide_true, Bool.true_and]
          rfl
        rw [same]
        split at written
        · rename_i granted
          rw [if_pos granted]
          cases result : (tree.erase old).write target bytes with
          | error problem =>
              rw [result] at written
              exact written
          | ok last =>
              rw [result] at written
              have below : old ≠ [] := below_root (by rw [content]; simp)
              refine ⟨fun place => ?_, written.2⟩
              rw [written.1 place, get?_erase tree below]
              by_cases same : place = new
              · simp [same]
              · simp [List.lookup_cons, beq_false_of_ne same]
        · rename_i barred
          rw [if_neg barred]
          exact written.failed

/-- A file that must not be removed is not moved either. -/
theorem edits?_move_of_refused
    {tree : FileTree} {source target : Path} {old : Place}
    (found : tree.locate source = .ok old)
    (refused : (.remove, old) ∈ tree.refused) :
    (move source target).edits? tree = none := by
  unfold edits?
  rw [Option.filter_eq_none_iff]
  intro edits wanted
  simp only [wanted?, found] at wanted
  split at wanted
  · rename_i same _
    cases same
    split at wanted
    · split at wanted
      · cases wanted
      · cases wanted
        simp [permits, changeTo, refused]
    · cases wanted
  · cases wanted

theorem result_move (tree : FileTree) (source target : Path) :
    Result tree ((move source target).edits? tree)
      (tree.rename source target) := by
  cases found : tree.locate source with
  | error problem =>
      rw [edits?_of_unwanted (by simp only [wanted?, found])]
      simp [rename, read, found, Result, bind, Except.bind]
  | ok old =>
      rcases content : tree.get? old with - | - | bytes
      · rw [edits?_of_unwanted
          (by cases reached : tree.locate target <;>
            simp only [wanted?, found, reached, content])]
        simp [rename, read, found, content, Result, bind, Except.bind]
      · rw [edits?_of_unwanted
          (by cases reached : tree.locate target <;>
            simp only [wanted?, found, reached, content])]
        simp [rename, read, found, content, Result, bind, Except.bind]
      · by_cases refused : (.remove, old) ∈ tree.refused
        · rw [edits?_move_of_refused found refused]
          simp [rename, read, remove, unlessRefused, found, content, refused,
            Result, bind, Except.bind]
        · have renamed :
              tree.rename source target =
                (tree.erase old).write target bytes := by
            simp [rename, read, remove, unlessRefused, found, content,
              refused, bind, Except.bind]
          rw [renamed]
          exact result_move_file found content refused

/-- What an action does is what its edits say. -/
theorem result_run (action : Action) (tree : FileTree) :
    Result tree (action.edits? tree) (action.run tree) := by
  cases action with
  | make path => exact result_make tree path
  | put path bytes => exact result_put tree path bytes
  | move source target => exact result_move tree source target
  | drop path => exact result_drop tree path

theorem succeeds_eq (action : Action) (tree : FileTree) :
    action.succeeds tree = (action.edits? tree).isSome := by
  have result := action.result_run tree
  unfold succeeds
  cases edited : action.edits? tree <;> cases ran : action.run tree <;>
    simp_all [Result, Except.isOk, Except.toBool]

theorem get?_after (action : Action) (tree : FileTree) (place : Place) :
    (action.after tree).get? place =
      ((action.edits tree).lookup place).getD (tree.get? place) := by
  have result := action.result_run tree
  unfold after edits
  cases edited : action.edits? tree <;> cases ran : action.run tree <;>
    simp_all [Result]

/-- No action changes what is refused. -/
theorem refused_after (action : Action) (tree : FileTree) :
    (action.after tree).refused = tree.refused := by
  have result := action.result_run tree
  unfold after
  cases edited : action.edits? tree <;> cases ran : action.run tree <;>
    simp_all [Result]

/-! ## What decides an action -/

/-- An action is to do the same where it finds the same. -/
theorem wanted?_congr
    {action : Action} {tree later : FileTree}
    (located :
      ∀ path ∈ action.paths, later.locate path = tree.locate path)
    (content :
      ∀ path ∈ action.paths, ∀ {place}, tree.locate path = .ok place →
        later.get? place = tree.get? place) :
    action.wanted? later = action.wanted? tree := by
  have same (path : Path) (member : path ∈ action.paths) :
      later.locate path = tree.locate path ∧
        ((∃ problem, tree.locate path = .error problem) ∨
          ∃ place,
            tree.locate path = .ok place ∧
              later.get? place = tree.get? place) := by
    refine ⟨located path member, ?_⟩
    cases found : tree.locate path with
    | error problem => exact .inl ⟨problem, rfl⟩
    | ok place => exact .inr ⟨place, rfl, content path member found⟩
  cases action with
  | make path =>
      obtain ⟨led, ⟨problem, found⟩ | ⟨place, found, equal⟩⟩ :=
        same path (by simp [paths])
      · simp [wanted?, led, found]
      · simp [wanted?, led, found, equal]
  | put path bytes =>
      obtain ⟨led, ⟨problem, found⟩ | ⟨place, found, equal⟩⟩ :=
        same path (by simp [paths])
      · simp [wanted?, led, found]
      · simp [wanted?, led, found, equal]
  | move source target =>
      obtain ⟨led, ⟨problem, found⟩ | ⟨old, found, equal⟩⟩ :=
        same source (by simp [paths])
      · simp [wanted?, led, found]
      · obtain ⟨leads, ⟨problem, reached⟩ | ⟨new, reached, like⟩⟩ :=
          same target (by simp [paths])
        · simp [wanted?, led, leads, found, reached]
        · simp [wanted?, led, leads, found, reached, equal, like]
  | drop path =>
      obtain ⟨led, ⟨problem, found⟩ | ⟨place, found, equal⟩⟩ :=
        same path (by simp [paths])
      · simp [wanted?, led, found]
      · simp [wanted?, led, found, equal]

/-- An action does the same where it finds the same. -/
theorem edits?_congr
    {action : Action} {tree later : FileTree}
    (refused : later.refused = tree.refused)
    (located :
      ∀ path ∈ action.paths, later.locate path = tree.locate path)
    (content :
      ∀ path ∈ action.paths, ∀ {place}, tree.locate path = .ok place →
        later.get? place = tree.get? place) :
    action.edits? later = action.edits? tree := by
  have same : permits later = permits tree := by
    funext edits
    simp only [permits, refused]
  rw [edits?, edits?, wanted?_congr located content, same]

/-- What an action can do to a tree. -/
inductive Does (tree : FileTree) :
    Action → List (Place × Option Node) → Prop where
  | nothing (action : Action) : Does tree action []
  | make
      {path : Path} {place : Place}
      (found : tree.locate path = .ok place)
      (free : tree.get? place = none) :
      Does tree (.make path) [(place, some .directory)]
  | put
      {path : Path} {bytes : List UInt8} {place : Place}
      (found : tree.locate path = .ok place)
      (free : tree.get? place ≠ some .directory) :
      Does tree (.put path bytes) [(place, some (.file bytes))]
  | move
      {source target : Path} {old new : Place} {bytes : List UInt8}
      (found : tree.locate source = .ok old)
      (reached : tree.locate target = .ok new)
      (content : tree.get? old = some (.file bytes))
      (free : tree.get? new ≠ some .directory) :
      Does tree (.move source target)
        [(new, some (.file bytes)), (old, none)]
  | drop
      {path : Path} {place : Place} {bytes : List UInt8}
      (found : tree.locate path = .ok place)
      (content : tree.get? place = some (.file bytes)) :
      Does tree (.drop path) [(place, none)]

theorem does_wanted
    {action : Action} {tree : FileTree} {edits : List (Place × Option Node)}
    (wanted : action.wanted? tree = some edits) :
    Does tree action edits := by
  cases action with
  | make path =>
      cases found : tree.locate path with
      | error problem => simp [wanted?, found] at wanted
      | ok place =>
          rcases content : tree.get? place with - | - | bytes
          · simp only [wanted?, found, content, Option.some.injEq] at wanted
            exact wanted ▸ .make found content
          · simp only [wanted?, found, content, Option.some.injEq] at wanted
            exact wanted ▸ .nothing _
          · simp [wanted?, found, content] at wanted
  | put path bytes =>
      cases found : tree.locate path with
      | error problem => simp [wanted?, found] at wanted
      | ok place =>
          by_cases content : tree.get? place = some .directory
          · simp [wanted?, found, content] at wanted
          · simp only [wanted?, found, content, if_false, Option.some.injEq]
              at wanted
            exact wanted ▸ .put found content
  | move source target =>
      cases found : tree.locate source with
      | error problem => simp [wanted?, found] at wanted
      | ok old =>
          cases reached : tree.locate target with
          | error problem => simp [wanted?, found, reached] at wanted
          | ok new =>
              rcases content : tree.get? old with - | - | bytes
              · simp [wanted?, found, reached, content] at wanted
              · simp [wanted?, found, reached, content] at wanted
              · by_cases free : tree.get? new = some .directory
                · simp [wanted?, found, reached, content, free] at wanted
                · simp only [wanted?, found, reached, content, free, if_false,
                    Option.some.injEq] at wanted
                  exact wanted ▸ .move found reached content free
  | drop path =>
      cases found : tree.locate path with
      | error problem => simp [wanted?, found] at wanted
      | ok place =>
          rcases content : tree.get? place with - | - | bytes
          · simp [wanted?, found, content] at wanted
          · simp [wanted?, found, content] at wanted
          · simp only [wanted?, found, content, Option.some.injEq] at wanted
            exact wanted ▸ .drop found content

theorem does_edits (action : Action) (tree : FileTree) :
    Does tree action (action.edits tree) := by
  unfold edits
  cases edited : action.edits? tree with
  | none => exact .nothing action
  | some edits => exact does_wanted (Option.filter_eq_some_iff.mp edited).1

/-- An action changes only places that its paths lead to, and no directory. -/
theorem of_mem_touched
    {action : Action} {tree : FileTree} {place : Place}
    (member : place ∈ action.touched tree) :
    (∃ path ∈ action.paths, tree.locate path = .ok place) ∧
      tree.get? place ≠ some .directory := by
  have does := action.does_edits tree
  unfold touched at member
  generalize action.edits tree = edits at does member
  cases does with
  | nothing => cases member
  | make found free =>
      rw [List.mem_singleton.mp member]
      exact ⟨⟨_, List.mem_singleton_self _, found⟩, by simp [free]⟩
  | put found free =>
      rw [List.mem_singleton.mp member]
      exact ⟨⟨_, List.mem_singleton_self _, found⟩, free⟩
  | move found reached content free =>
      simp only [List.map_cons, List.map_nil, List.mem_cons,
        List.not_mem_nil, or_false] at member
      rcases member with rfl | rfl
      · exact ⟨⟨_, by simp [paths], reached⟩, free⟩
      · exact ⟨⟨_, by simp [paths], found⟩, by simp [content]⟩
  | drop found content =>
      rw [List.mem_singleton.mp member]
      exact ⟨⟨_, List.mem_singleton_self _, found⟩, by simp [content]⟩

theorem nothing_of_mem_touched_make
    {tree : FileTree} {path : Path} {place : Place}
    (member : place ∈ (make path).touched tree) :
    tree.get? place = none := by
  have does := (make path).does_edits tree
  unfold touched at member
  generalize (make path).edits tree = edits at does member
  cases does with
  | nothing => cases member
  | make found free =>
      rw [List.mem_singleton.mp member]
      exact free

/-- Files come from being written or moved. -/
theorem of_mem_edits_file
    {action : Action} {tree : FileTree} {place : Place} {bytes : List UInt8}
    (member : (place, some (.file bytes)) ∈ action.edits tree) :
    (∃ path, action = put path bytes ∧ tree.locate path = .ok place) ∨
      ∃ source target,
        action = move source target ∧ tree.locate target = .ok place ∧
          tree.read source = .ok bytes := by
  have does := action.does_edits tree
  generalize action.edits tree = edits at does member
  cases does with
  | nothing => cases member
  | make found free => simp at member
  | put found free =>
      simp only [List.mem_singleton, Prod.mk.injEq, Option.some.injEq,
        Node.file.injEq] at member
      obtain ⟨rfl, rfl⟩ := member
      exact .inl ⟨_, rfl, found⟩
  | move found reached content free =>
      simp only [List.mem_cons, Prod.mk.injEq, Option.some.injEq,
        Node.file.injEq, reduceCtorEq, and_false, List.not_mem_nil,
        or_false] at member
      obtain ⟨rfl, rfl⟩ := member
      exact .inr ⟨_, _, rfl, reached,
        read_eq_ok_iff.mpr ⟨_, found, content⟩⟩
  | drop found content => simp at member

theorem lookup_edits_of_not_mem
    {action : Action} {tree : FileTree} {place : Place}
    (untouched : place ∉ action.touched tree) :
    (action.edits tree).lookup place = none := by
  rw [List.lookup_eq_none_iff]
  intro edit member
  rw [bne_iff_ne]
  rintro rfl
  exact untouched (List.mem_map_of_mem member)

theorem get?_after_of_not_mem
    {action : Action} {tree : FileTree} {place : Place}
    (untouched : place ∉ action.touched tree) :
    (action.after tree).get? place = tree.get? place := by
  rw [get?_after, lookup_edits_of_not_mem untouched, Option.getD_none]

/-- No action removes a directory. -/
theorem keeps_after (action : Action) (tree : FileTree) :
    Keeps tree (action.after tree) := by
  intro place standing
  rw [get?_after_of_not_mem, standing]
  intro member
  exact (of_mem_touched member).2 standing

end Action

namespace Alike

variable {left right : FileTree}

theorem edits? (alike : Alike left right) (action : Action) :
    action.edits? left = action.edits? right :=
  Action.edits?_congr alike.refused
    (fun path _ => alike.locate path) (fun _ _ place _ => alike.content place)

theorem succeeds (alike : Alike left right) (action : Action) :
    action.succeeds left = action.succeeds right := by
  rw [Action.succeeds_eq, Action.succeeds_eq, alike.edits? action]

theorem after (alike : Alike left right) (action : Action) :
    Alike (action.after left) (action.after right) where
  content := by
    intro place
    rw [Action.get?_after, Action.get?_after, Action.edits, Action.edits,
      alike.edits? action, alike.content place]
  refused := by
    rw [action.refused_after, action.refused_after, alike.refused]

end Alike

/-! ## Actions that commute -/

/-- Two actions can be taken in either order. -/
structure Action.Commute (first second : Action) (tree : FileTree) : Prop where
  left : first.succeeds (second.after tree) = first.succeeds tree
  right : second.succeeds (first.after tree) = second.succeeds tree
  alike :
    Alike (first.after (second.after tree)) (second.after (first.after tree))

namespace Action

variable {first second : Action} {tree : FileTree}

theorem Commute.symm (commute : Commute first second tree) :
    Commute second first tree :=
  ⟨commute.right, commute.left, commute.alike.symm⟩

/-- Actions commute if neither changes what the other does. -/
theorem commute_of_edits?
    (left : first.edits? (second.after tree) = first.edits? tree)
    (right : second.edits? (first.after tree) = second.edits? tree)
    (apart : ∀ place ∈ first.touched tree, place ∉ second.touched tree) :
    Commute first second tree where
  left := by rw [succeeds_eq, succeeds_eq, left]
  right := by rw [succeeds_eq, succeeds_eq, right]
  alike := by
    refine ⟨fun place => ?_, by simp only [refused_after]⟩
    have before : first.edits (second.after tree) = first.edits tree := by
      rw [edits, left, edits]
    have behind : second.edits (first.after tree) = second.edits tree := by
      rw [edits, right, edits]
    rw [get?_after, get?_after, get?_after, get?_after, before, behind]
    by_cases member : place ∈ first.touched tree
    · rw [lookup_edits_of_not_mem (apart place member)]
      rfl
    · rw [lookup_edits_of_not_mem member]
      rfl

/-- An action that changes nothing commutes if it still does not. -/
theorem commute_of_idle
    (idle : first.touched tree = [])
    (still : first.edits? (second.after tree) = first.edits? tree) :
    Commute first second tree := by
  have same : Alike (first.after tree) tree := by
    refine ⟨fun place => ?_, first.refused_after tree⟩
    apply get?_after_of_not_mem
    rw [idle]
    exact List.not_mem_nil
  apply commute_of_edits? still (same.edits? second)
  rw [idle]
  intro place member
  cases member

theorem alike_of_fails (fails : first.succeeds tree = false) :
    Alike (first.after tree) tree := by
  refine ⟨fun place => ?_, first.refused_after tree⟩
  rw [succeeds_eq, Option.isSome_eq_false_iff, Option.isNone_iff_eq_none]
    at fails
  rw [get?_after, edits, fails]
  rfl

end Action

/-! ## Directories that are there -/

/-- A path leads to a directory. -/
def Stands (tree : FileTree) (path : Path) : Prop :=
  ∃ place,
    tree.locate path = .ok place ∧ tree.get? place = some .directory

theorem Stands.keeps
    {tree later : FileTree} {path : Path}
    (stands : tree.Stands path) (keeps : Keeps tree later) :
    later.Stands path := by
  obtain ⟨place, found, standing⟩ := stands
  exact ⟨place, keeps.locate found, keeps standing⟩

/-- There is nothing to make where a directory is. -/
theorem Stands.edits?_make
    {tree : FileTree} {path : Path} (stands : tree.Stands path) :
    (Action.make path).edits? tree = some [] := by
  obtain ⟨place, found, standing⟩ := stands
  have wanted : (Action.make path).wanted? tree = some [] := by
    simp only [Action.wanted?, found, standing]
  rw [Action.edits?_of_wanted wanted]
  rfl

theorem edits?_make_of_nothing
    {tree : FileTree} {path : Path} {place : Place}
    (found : tree.locate path = .ok place) (nothing : tree.get? place = none) :
    (Action.make path).edits? tree =
      if (.make, place) ∈ tree.refused then none
      else some [(place, some .directory)] := by
  have wanted :
      (Action.make path).wanted? tree = some [(place, some .directory)] := by
    simp only [Action.wanted?, found, nothing]
  exact Action.edits?_of_wanted_single wanted

/--
A directory can be made where nothing is, unless that is refused, or where one
is already.
-/
theorem succeeds_make_iff {tree : FileTree} {path : Path} :
    (Action.make path).succeeds tree = true ↔
      ∃ place,
        tree.locate path = .ok place ∧
          (tree.get? place = none ∧ (.make, place) ∉ tree.refused ∨
            tree.get? place = some .directory) := by
  rw [Action.succeeds_eq]
  cases found : tree.locate path with
  | error problem =>
      rw [Action.edits?_of_unwanted (by simp only [Action.wanted?, found])]
      simp
  | ok place =>
      rcases content : tree.get? place with - | - | bytes
      · rw [edits?_make_of_nothing found content]
        by_cases refused : (.make, place) ∈ tree.refused <;>
          simp [content, refused]
      · rw [Stands.edits?_make ⟨place, found, content⟩]
        simp [content]
      · rw [Action.edits?_of_unwanted
          (by simp only [Action.wanted?, found, content])]
        simp [content]

/-- No directory is found at a place, and none can be made there. -/
def Barred (tree : FileTree) (place : Place) : Prop :=
  (∃ bytes, tree.get? place = some (.file bytes)) ∨
    tree.get? place = none ∧ (.make, place) ∈ tree.refused

theorem make_fails_iff {tree : FileTree} {path : Path} :
    (Action.make path).succeeds tree = false ↔
      ∀ {place}, tree.locate path = .ok place → tree.Barred place := by
  rw [← Bool.not_eq_true, succeeds_make_iff, not_exists]
  refine forall_congr' fun place => ?_
  rw [not_and]
  refine imp_congr_right fun _ => ?_
  rcases content : tree.get? place with - | - | bytes <;>
    simp [Barred, content]

theorem Barred.not_directory
    {tree : FileTree} {place : Place} (barred : tree.Barred place) :
    tree.get? place ≠ some .directory := by
  rcases barred with ⟨bytes, file⟩ | ⟨nothing, -⟩
  · simp [file]
  · simp [nothing]

theorem Barred.not_mem_touched_make
    {tree : FileTree} {path : Path} {place : Place}
    (barred : tree.Barred place) :
    place ∉ (Action.make path).touched tree := by
  intro touched
  obtain ⟨⟨other, member, found⟩, -⟩ := Action.of_mem_touched touched
  have nothing := Action.nothing_of_mem_touched_make touched
  rcases barred with ⟨bytes, file⟩ | ⟨-, refused⟩
  · rw [nothing] at file
    cases file
  · rw [List.mem_singleton.mp member] at found
    simp [Action.touched, Action.edits, edits?_make_of_nothing found nothing,
      refused] at touched

/-- What bars a place stays unless it is replaced. -/
theorem Barred.after
    {tree : FileTree} {place : Place} {action : Action}
    (barred : tree.Barred place)
    (untouched : place ∉ action.touched tree) :
    (action.after tree).Barred place := by
  rw [Barred, Action.get?_after_of_not_mem untouched, action.refused_after]
  exact barred

theorem stands_after_make
    {tree : FileTree} {path : Path}
    (made : (Action.make path).succeeds tree = true) :
    ((Action.make path).after tree).Stands path := by
  have keeps := (Action.make path).keeps_after tree
  obtain ⟨place, found, ⟨nothing, permitted⟩ | content⟩ :=
    succeeds_make_iff.mp made
  · refine ⟨place, keeps.locate found, ?_⟩
    rw [Action.get?_after, Action.edits, edits?_make_of_nothing found nothing]
    simp [permitted]
  · exact ⟨place, keeps.locate found, keeps content⟩

/-- Directories that are there stay when one more is made. -/
theorem stand_after_make
    {tree : FileTree} {made : List Path} {path : Path}
    (standing : ∀ rung ∈ made, tree.Stands rung)
    (succeeds : (Action.make path).succeeds tree = true) :
    ∀ rung ∈ made ++ [path], ((Action.make path).after tree).Stands rung := by
  intro rung member
  rcases List.mem_append.mp member with earlier | last
  · exact (standing rung earlier).keeps ((Action.make path).keeps_after tree)
  · rw [List.mem_singleton.mp last]
    exact stands_after_make succeeds

namespace Action

variable {second : Action} {tree : FileTree}

/-- A directory that is there can be made beside anything else. -/
theorem commute_of_stands
    {path : Path}
    (stands : tree.Stands path) :
    Commute (make path) second tree := by
  have nothing := stands.edits?_make
  apply commute_of_idle
  · simp [touched, edits, nothing]
  · rw [nothing]
    exact (stands.keeps (second.keeps_after tree)).edits?_make

/-- Making a directory twice is making it once. -/
theorem commute_make_self (path : Path) (tree : FileTree) :
    Commute (make path) (make path) tree := by
  have again :
      (make path).succeeds ((make path).after tree) =
        (make path).succeeds tree := by
    cases made : (make path).succeeds tree with
    | false => rw [(alike_of_fails made).succeeds, made]
    | true =>
        have nothing := (stands_after_make made).edits?_make
        rw [succeeds_eq, nothing]
        rfl
  exact ⟨again, again, .refl _⟩

theorem edits?_put_of_free
    {path : Path} {place : Place} (bytes : List UInt8)
    (found : tree.locate path = .ok place)
    (free : tree.get? place ≠ some .directory) :
    (put path bytes).edits? tree =
      if (.write, place) ∈ tree.refused then none
      else some [(place, some (.file bytes))] := by
  have wanted :
      (put path bytes).wanted? tree = some [(place, some (.file bytes))] := by
    simp only [wanted?, found, free, if_false]
  exact edits?_of_wanted_single wanted

theorem edits?_of_put
    {path : Path} {bytes : List UInt8}
    (written : (put path bytes).succeeds tree = true) :
    ∃ place,
      tree.locate path = .ok place ∧ (.write, place) ∉ tree.refused ∧
        ∀ others : List UInt8,
          (put path others).edits? tree = some [(place, some (.file others))] := by
  rw [succeeds_eq] at written
  cases found : tree.locate path with
  | error problem =>
      rw [edits?_of_unwanted (by simp only [wanted?, found])] at written
      cases written
  | ok place =>
      refine ⟨place, rfl, ?_⟩
      by_cases content : tree.get? place = some .directory
      · rw [edits?_of_unwanted (by simp only [wanted?, found, content, if_true])]
          at written
        cases written
      · simp only [edits?_put_of_free _ found content] at written ⊢
        by_cases refused : (.write, place) ∈ tree.refused
        · simp [refused] at written
        · simp [refused]

/-- Whether a file can be written does not depend on what is written. -/
theorem succeeds_put
    (tree : FileTree) (path : Path) (bytes others : List UInt8) :
    (put path bytes).succeeds tree = (put path others).succeeds tree := by
  have passes {first second : List UInt8}
      (written : (put path first).succeeds tree = true) :
      (put path second).succeeds tree = true := by
    obtain ⟨place, -, -, edits⟩ := edits?_of_put written
    rw [succeeds_eq, edits]
    rfl
  exact Bool.eq_iff_iff.mpr ⟨passes, passes⟩

theorem read_after_put
    {path : Path} {bytes : List UInt8}
    (written : (put path bytes).succeeds tree = true) :
    ((put path bytes).after tree).read path = .ok bytes := by
  obtain ⟨place, found, -, edits⟩ := edits?_of_put written
  rw [read_eq_ok_iff]
  refine ⟨place, ((put path bytes).keeps_after tree).locate found, ?_⟩
  rw [get?_after, Action.edits, edits]
  simp

/-- A file written twice has what was written last. -/
theorem put_put
    {path : Path} {bytes : List UInt8}
    (written : (put path bytes).succeeds tree = true) (others : List UInt8) :
    (put path others).succeeds ((put path bytes).after tree) = true ∧
      Alike ((put path others).after ((put path bytes).after tree))
        ((put path others).after tree) := by
  obtain ⟨place, found, permitted, edits⟩ := edits?_of_put written
  have reached := ((put path bytes).keeps_after tree).locate found
  have content :
      ((put path bytes).after tree).get? place = some (.file bytes) := by
    rw [get?_after, Action.edits, edits]
    simp
  have again :
      (put path others).edits? ((put path bytes).after tree) =
        some [(place, some (.file others))] := by
    rw [edits?_put_of_free others reached (by simp [content]), refused_after]
    exact if_neg permitted
  constructor
  · rw [succeeds_eq, again]
    rfl
  · refine ⟨fun other => ?_, by simp only [refused_after]⟩
    rw [get?_after, get?_after, get?_after, Action.edits, again, Action.edits,
      edits, Action.edits, edits]
    by_cases same : other = place
    · simp [same]
    · simp [List.lookup_cons, beq_false_of_ne same]

end Action

/-! ## Paths that are settled -/

/-- Where a path leads is the same as long as directories stay. -/
def Settled (tree : FileTree) (path : Path) : Prop :=
  ∀ ⦃later⦄, Keeps tree later → later.locate path = tree.locate path

/-- One more name leads from a path to another. -/
def Under (parent child : Path) : Prop :=
  ∃ name, ∀ tree : FileTree,
    tree.follow child =
      (tree.follow parent >>= fun place => tree.step place name)

theorem under_append (parent : Path) (name : String) :
    Under parent (parent ++ [name]) := by
  refine ⟨name, fun tree => ?_⟩
  simp only [follow, List.foldlM_append, List.foldlM_cons, List.foldlM_nil,
    bind_pure]

theorem Settled.keeps
    {tree later : FileTree} {path : Path}
    (settled : tree.Settled path) (keeps : Keeps tree later) :
    later.Settled path := by
  intro last kept
  rw [settled (keeps.trans kept), settled keeps]

theorem settled_of_flaw
    {path : Path} {problem : FileError} (tree : FileTree)
    (flaw : path.flaw? = some problem) :
    tree.Settled path := by
  intro later _
  simp only [locate, flaw]

theorem settled_root (tree : FileTree) : tree.Settled [] :=
  fun _ _ => rfl

theorem follow_eq_of_locate_eq
    {tree : FileTree} {path : Path} {place : Place}
    (found : tree.locate path = .ok place) :
    tree.follow path = .ok place :=
  (locate_eq_ok_iff.mp found).2

/-- A path is settled once the directory above its end is there. -/
theorem settled_of_stands
    {tree : FileTree} {parent child : Path}
    (under : Under parent child) (stands : tree.Stands parent) :
    tree.Settled child := by
  obtain ⟨name, entered⟩ := under
  obtain ⟨place, found, standing⟩ := stands
  intro later keeps
  have reached := follow_eq_of_locate_eq found
  have steps : later.step place name = tree.step place name := by
    simp only [step, keeps standing, standing]
  have same : later.follow child = tree.follow child := by
    rw [entered, entered, reached, keeps.follow reached]
    exact steps
  simp only [follow] at same
  simp only [locate, same]

namespace Action

variable {first second : Action} {tree : FileTree}

/-- Actions commute whose paths are settled and lead to different places. -/
theorem commute_of_apart
    (before : ∀ path ∈ first.paths, tree.Settled path)
    (behind : ∀ path ∈ second.paths, tree.Settled path)
    (apart :
      ∀ path ∈ first.paths, ∀ other ∈ second.paths, ∀ {place},
        tree.locate path = .ok place → tree.locate other ≠ .ok place) :
    Commute first second tree := by
  apply commute_of_edits?
  · apply edits?_congr (second.refused_after tree)
    · intro path member
      exact before path member (second.keeps_after tree)
    · intro path member place found
      apply get?_after_of_not_mem
      intro touched
      obtain ⟨⟨other, present, reached⟩, -⟩ := of_mem_touched touched
      exact apart path member other present found reached
  · apply edits?_congr (first.refused_after tree)
    · intro path member
      exact behind path member (first.keeps_after tree)
    · intro path member place found
      apply get?_after_of_not_mem
      intro touched
      obtain ⟨⟨other, present, reached⟩, -⟩ := of_mem_touched touched
      exact apart other present path member reached found
  · intro place left right
    obtain ⟨⟨path, member, found⟩, -⟩ := of_mem_touched left
    obtain ⟨⟨other, present, reached⟩, -⟩ := of_mem_touched right
    exact apart path member other present found reached

end Action

end ShaderSynth.FileTree
