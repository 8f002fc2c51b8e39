/-!
# File trees

A tree of directories and files, with the operations that storing programs
needs.  A path is a list of names to follow from the root, where `.` stays in
a directory and `..` goes up; a place is where following one may lead.

Following a path takes one step after the other.  A step from where there is
nothing, from a file, or to a name that is too long fails with an error of its
own, and the first step that fails decides.

A tree may also refuse changes at some places, as where files are protected.
This is asked last, so a change is refused only if it could be made otherwise.
-/

namespace ShaderSynth

/-- The names to follow on the way to a file or directory. -/
abbrev Path := List String

/-- The names of the directories down to a place, and its own. -/
abbrev Place := List String

namespace Path

/-- The longest name, in bytes. -/
def maxNameSize : Nat := 255

/-- The longest path, in bytes. -/
def maxSize : Nat := 4095

/-- The path to a directory that a text names. -/
def ofText (text : String) : Path :=
  ((text.toList.splitOn '/').map String.ofList).filter (· ≠ "")

/--
The path to a file that a text names.  One that ends in a separator can only
lead to a directory.
-/
def ofFileText (text : String) : Path :=
  if text.endsWith "/" then ofText text ++ ["."] else ofText text

/-- A text with names appended to it; a name from the root stands alone. -/
def join (base : String) (names : List String) : String :=
  names.foldl
    (fun text name =>
      if name.startsWith "/" then name
      else if text = "" ∨ text.endsWith "/" then text ++ name
      else text ++ "/" ++ name)
    base

/-- How many bytes a path takes, with a separator before each name. -/
def size (path : Path) : Nat :=
  path.foldl (fun total name => total + 1 + name.utf8ByteSize) 0

/-- The path without names that stay in a directory. -/
def plain (path : Path) : Path :=
  path.filter (· ≠ ".")

/-- The paths above a path, from the root down. -/
def ancestors (path : Path) : List Path :=
  (List.range path.length).map path.take

end Path

/-- What is found at a place. -/
inductive Node where
  | directory
  | file (bytes : List UInt8)
deriving DecidableEq, Repr

/-- Why an operation on a file failed. -/
inductive FileError where
  /-- There is nothing at the path. -/
  | notFound
  /-- A file stands where a directory is needed. -/
  | notDirectory
  /-- A directory stands where a file is needed. -/
  | isDirectory
  /-- Something stands where a directory is to be made. -/
  | occupied
  /-- A name, or the whole path, has too many bytes. -/
  | tooLong
  /-- A name holds the character that ends texts. -/
  | invalidName
  /-- The change is refused. -/
  | denied
deriving DecidableEq, Repr

/-- What is wrong with a path by itself. -/
def Path.flaw? (path : Path) : Option FileError :=
  if path.any fun name => name.toList.contains '\x00' then some .invalidName
  else if maxSize < path.size then some .tooLong
  else none

/-- A change of what is found at a place. -/
inductive Change where
  /-- A directory is made. -/
  | make
  /-- A file is written, or moved to the place. -/
  | write
  /-- The file is removed, or moved away. -/
  | remove
deriving DecidableEq, Repr

/-- Files and directories by their places. -/
structure FileTree where
  nodes : List (Place × Node)
  /-- The changes that fail even where everything else is in order. -/
  refused : List (Change × Place) := []
deriving Repr

namespace FileTree

/-- A tree with nothing but its root. -/
def empty : FileTree := { nodes := [] }

/-- What is found at a place. -/
def get? (tree : FileTree) (place : Place) : Option Node :=
  if place = [] then some .directory else tree.nodes.lookup place

/-- Removes what is found at a place. -/
def erase (tree : FileTree) (place : Place) : FileTree :=
  { tree with nodes := tree.nodes.filter fun entry => entry.1 ≠ place }

/-- Puts something at a place. -/
def set (tree : FileTree) (place : Place) (node : Node) : FileTree :=
  { tree with nodes := (place, node) :: (tree.erase place).nodes }

/-- What becomes of a tree by a change, unless that is refused. -/
def unlessRefused
    (tree : FileTree) (change : Change) (place : Place) (later : FileTree) :
    Except FileError FileTree :=
  if (change, place) ∈ tree.refused then .error .denied else .ok later

theorem unlessRefused_eq_ok_iff
    {tree later after : FileTree} {change : Change} {place : Place} :
    tree.unlessRefused change place later = .ok after ↔
      (change, place) ∉ tree.refused ∧ after = later := by
  unfold unlessRefused
  split <;> simp_all [eq_comm]

@[simp]
theorem get?_root (tree : FileTree) : tree.get? [] = some .directory := rfl

theorem get?_erase_self
    (tree : FileTree) {place : Place} (nonempty : place ≠ []) :
    (tree.erase place).get? place = none := by
  simp only [get?, erase, nonempty, if_false, List.lookup_eq_none_iff]
  intro entry member
  have different : entry.1 ≠ place := by simpa using (List.mem_filter.mp member).2
  simpa using different.symm

theorem get?_erase_of_ne
    (tree : FileTree) {place other : Place} (different : other ≠ place) :
    (tree.erase place).get? other = tree.get? other := by
  simp only [get?, erase]
  congr 1
  induction tree.nodes with
  | nil => rfl
  | cons entry rest ih => grind

theorem get?_set_self
    (tree : FileTree) {place : Place} (node : Node) (nonempty : place ≠ []) :
    (tree.set place node).get? place = some node := by
  simp [get?, set, nonempty]

theorem get?_set_of_ne
    (tree : FileTree) {place other : Place} (node : Node)
    (different : other ≠ place) :
    (tree.set place node).get? other = tree.get? other := by
  rw [← tree.get?_erase_of_ne different]
  simp [get?, set, List.lookup_cons, beq_false_of_ne different]

/-- Follows a name from a place, to where there may be nothing. -/
def step (tree : FileTree) (place : Place) (name : String) :
    Except FileError Place :=
  match tree.get? place with
  | none => .error .notFound
  | some (.file _) => .error .notDirectory
  | some .directory =>
      if name = "." then .ok place
      else if name = ".." then .ok place.dropLast
      else if Path.maxNameSize < name.utf8ByteSize then .error .tooLong
      else .ok (place ++ [name])

/-- Where a path leads. -/
def locate (tree : FileTree) (path : Path) : Except FileError Place :=
  match path.flaw? with
  | some error => .error error
  | none => path.foldlM tree.step []

/-- The content of a file. -/
def read (tree : FileTree) (path : Path) : Except FileError (List UInt8) := do
  let place ← tree.locate path
  match tree.get? place with
  | none => .error .notFound
  | some .directory => .error .isDirectory
  | some (.file bytes) => .ok bytes

/-- Writes a file, in the place of the one at the path, if there is one. -/
def write (tree : FileTree) (path : Path) (bytes : List UInt8) :
    Except FileError FileTree := do
  let place ← tree.locate path
  match tree.get? place with
  | some .directory => .error .isDirectory
  | _ => tree.unlessRefused .write place (tree.set place (.file bytes))

/-- Removes a file. -/
def remove (tree : FileTree) (path : Path) : Except FileError FileTree := do
  let place ← tree.locate path
  match tree.get? place with
  | none => .error .notFound
  | some .directory => .error .isDirectory
  | some (.file _) => tree.unlessRefused .remove place (tree.erase place)

/-- Moves a file, in the place of the one at the target, if there is one. -/
def rename (tree : FileTree) (source target : Path) :
    Except FileError FileTree := do
  let bytes ← tree.read source
  let tree ← tree.remove source
  tree.write target bytes

/--
Copies a file, in the place of the one at the target, if there is one.  The
target is emptied first, so nothing is left of a file copied onto itself.
-/
def copy (tree : FileTree) (source target : Path) :
    Except FileError FileTree := do
  let _ ← tree.read source
  let tree ← tree.write target []
  let bytes ← tree.read source
  tree.write target bytes

/-- Makes a directory, unless there is one. -/
def makeDirectory (tree : FileTree) (path : Path) :
    Except FileError FileTree := do
  let place ← tree.locate path
  match tree.get? place with
  | none => tree.unlessRefused .make place (tree.set place .directory)
  | some .directory => .ok tree
  | some (.file _) => .error .occupied

/-- Makes directories in turn, up to the first that cannot be made. -/
def makeEach (tree : FileTree) : List Path → Except FileError Unit × FileTree
  | [] => (.ok (), tree)
  | path :: rest =>
      match tree.makeDirectory path with
      | .error error => (.error error, tree)
      | .ok tree => tree.makeEach rest

/--
Makes a directory and those above it, as far as they are missing.  Those made
before a failure stay.
-/
def makeDirectories (tree : FileTree) (path : Path) :
    Except FileError Unit × FileTree :=
  match path.flaw? with
  | some error => (.error error, tree)
  | none => tree.makeEach (path.plain.ancestors ++ [path])

/-- Everything below a directory, each directory before what is in it. -/
def below (tree : FileTree) (directory : Place) : List (Place × Node) :=
  let found := tree.nodes.filter fun entry =>
    directory.isPrefixOf entry.1 && entry.1 != directory
  let relative := found.map fun (place, node) =>
    (place.drop directory.length, node)
  relative.mergeSort fun first second => !decide (second.1 < first.1)

end FileTree

end ShaderSynth
