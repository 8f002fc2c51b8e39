import ShaderSynth.Digest
import ShaderSynth.FileTree
import ShaderSynth.Hex
import ShaderSynth.Store.Entry

/-!
# Stored programs in a file tree

Each entry has a file of its own, named by the digest of its configuration.
An entry is written to a temporary file first and then moved into its place,
so that a reader never sees half of one.  The index lists the digests of the
entries to load again, eight bytes each.
-/

namespace ShaderSynth.Store

/-- Why an entry could not be stored or loaded. -/
inductive StoreError where
  | creating (path : String)
  | writing (path : String)
  | moving (path : String)
  | reading (path : String)
  | entry (error : EntryError)
  | digest (actual expected : UInt64)
deriving DecidableEq, Repr

namespace StoreError

/-- The message of an error. -/
def message : StoreError → String
  | creating path => "creating " ++ path
  | writing path => "writing " ++ path
  | moving path => "renaming into " ++ path
  | reading path => "reading " ++ path
  | entry error => error.message
  | digest actual expected =>
      "stored state hashes to " ++ Hex.lower 16 actual.toNat ++
        ", expected " ++ Hex.lower 16 expected.toNat

/-- Whether the files are to blame, and not what they hold. -/
def isFileError : StoreError → Bool
  | creating _ | writing _ | moving _ | reading _ => true
  | entry _ | digest _ _ => false

end StoreError

/-! ## Names of files -/

/-- How many digests share a directory: the low 48 bits vary. -/
def lowRange : Nat := 0x1000000000000

/-- The names on the way to the directory of an entry. -/
def directoryNames (digest : UInt64) : List String :=
  ["shaders", Hex.lower 4 (digest.toNat / lowRange)]

/-- The name of an entry in its directory. -/
def fileName (digest : UInt64) : String :=
  Hex.lower 12 (digest.toNat % lowRange)

/-- The names on the way to an entry. -/
def entryNames (digest : UInt64) : List String :=
  directoryNames digest ++ [fileName digest]

/-- The names on the way to the temporary file of an entry. -/
def temporaryNames (digest : UInt64) : List String :=
  directoryNames digest ++ [fileName digest ++ ".tmp"]

/-- The names on the way to the index. -/
def indexNames : List String := ["shader_cache_list"]

/-- The path of names below a base directory. -/
def pathBelow (base : String) (names : List String) : Path :=
  Path.ofText base ++ names

/-! ## Entries -/

/-- Writes an entry. -/
def write
    (base : String) (digest : UInt64) (stamp : Stamp) (entry : Entry)
    (tree : FileTree) :
    Except StoreError Unit × FileTree :=
  let temporary := pathBelow base (temporaryNames digest)
  match tree.makeDirectories (pathBelow base (directoryNames digest)) with
  | (.error _, tree) =>
      (.error (.creating (Path.join base (directoryNames digest))), tree)
  | (.ok (), tree) =>
      match tree.write temporary (entry.toBytes stamp) with
      | .error _ =>
          (.error (.writing (Path.join base (temporaryNames digest))), tree)
      | .ok tree =>
          match tree.rename temporary (pathBelow base (entryNames digest)) with
          | .ok tree => (.ok (), tree)
          | .error _ =>
              (.error (.moving (Path.join base (entryNames digest))),
                match tree.remove temporary with
                | .ok tree => tree
                | .error _ => tree)

/-- Loads an entry; its configuration has to have the digest. -/
def load
    (base : String) (digest : UInt64) (stamp : Stamp) (tree : FileTree) :
    Except StoreError Entry :=
  match tree.read (pathBelow base (entryNames digest)) with
  | .error _ => .error (.reading (Path.join base (entryNames digest)))
  | .ok bytes =>
      match Entry.ofBytes stamp bytes with
      | .error error => .error (.entry error)
      | .ok entry =>
          if entry.state.digest = digest then .ok entry
          else .error (.digest entry.state.digest digest)

/-- Removes an entry, if it is there. -/
def remove (base : String) (digest : UInt64) (tree : FileTree) :
    Except FileError FileTree :=
  match tree.remove (pathBelow base (entryNames digest)) with
  | .error .notFound => .ok tree
  | other => other

/-- Writes an entry; a failure leaves none behind. -/
def save
    (base : String) (digest : UInt64) (stamp : Stamp) (entry : Entry)
    (tree : FileTree) :
    FileTree :=
  match write base digest stamp entry tree with
  | (.ok (), tree) => tree
  | (.error _, tree) =>
      match remove base digest tree with
      | .ok tree => tree
      | .error _ => tree

/-! ## The index -/

/-- The digests that bytes hold; a partial one at the end does not count. -/
def digestsOfBytes : List UInt8 → List UInt64
  | b0 :: b1 :: b2 :: b3 :: b4 :: b5 :: b6 :: b7 :: rest =>
      Format.wordOfBytes b0 b1 b2 b3 b4 b5 b6 b7 :: digestsOfBytes rest
  | _ => []

/-- Reads the index; where there is none, nothing is stored. -/
def readIndex (base : String) (tree : FileTree) :
    Except StoreError (List UInt64) :=
  match tree.read (pathBelow base indexNames) with
  | .ok bytes => .ok (digestsOfBytes bytes)
  | .error .notFound => .ok []
  | .error _ => .error (.reading (Path.join base indexNames))

/-- Writes the index. -/
def writeIndex (base : String) (digests : List UInt64) (tree : FileTree) :
    Except FileError Unit × FileTree :=
  match tree.makeDirectories (Path.ofText base) with
  | (.error error, tree) => (.error error, tree)
  | (.ok (), tree) =>
      let bytes := digests.flatMap Format.wordBytes
      match tree.write (pathBelow base indexNames) bytes with
      | .error error => (.error error, tree)
      | .ok tree => (.ok (), tree)

/-! ## Loading what the index lists -/

/-- Entries made ready for use, and the tree without the bad ones. -/
structure Staging where
  staged : List (UInt64 × Entry)
  rejects : Nat
  tree : FileTree

/-- Makes one entry ready; a bad one is removed, so as not to be tried again. -/
def Staging.add
    (base : String) (stamp : Stamp) (staging : Staging) (digest : UInt64) :
    Staging :=
  if (staging.staged.lookup digest).isSome then staging
  else
    match load base digest stamp staging.tree with
    | .ok entry =>
        { staging with staged := staging.staged ++ [(digest, entry)] }
    | .error _ =>
        { staging with
          rejects := staging.rejects + 1
          tree :=
            match remove base digest staging.tree with
            | .ok tree => tree
            | .error _ => staging.tree }

/-- Makes everything ready that the index lists. -/
def preload (base : String) (stamp : Stamp) (tree : FileTree) : Staging :=
  match readIndex base tree with
  | .error _ => ⟨[], 0, tree⟩
  | .ok digests => digests.foldl (Staging.add base stamp) ⟨[], 0, tree⟩

end ShaderSynth.Store
