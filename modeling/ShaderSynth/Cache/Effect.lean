import ShaderSynth.Linker
import ShaderSynth.Store.Files

/-!
# Effects of a program cache

Operations on a cache do not touch files themselves.  They say in which order
files are to be touched and what is to be logged, and `perform` does so.

Programs are saved in the background: `save` starts a task, and `await` makes
sure that the task of a digest has ended.  `perform` runs each task to its end
when it is started.
-/

namespace ShaderSynth.Cache

/-- What a cache reports. -/
inductive Report where
  | build (line : BuildReport)
  | collision (digest : UInt64)
  | rejectedBinary (digest : UInt64)
  | undeletedEntry (digest : UInt64)
  | unwrittenIndex (path : String)
deriving DecidableEq, Repr

/-- The log line of a report. -/
def Report.text : Report → String
  | .build line => line.text
  | collision digest =>
      "WARN content hash collision; replacing resident program hash=" ++
        Hex.lower 16 digest.toNat
  | rejectedBinary digest =>
      "WARN host rejected persisted program binary; retranslating hash=" ++
        Hex.lower 16 digest.toNat
  | undeletedEntry digest =>
      "ERROR failed to delete rejected cache entry hash=" ++
        Hex.lower 16 digest.toNat
  | unwrittenIndex path =>
      "ERROR failed to write shader cache index path=" ++ path

/-- What an operation on a cache does besides. -/
inductive Effect where
  | report (line : Report)
  /-- Starts to save an entry in the background. -/
  | save (digest : UInt64) (entry : Store.Entry)
  /-- Waits until the entry of a digest is saved. -/
  | await (digest : UInt64)
  /-- Waits until all entries are saved. -/
  | awaitAll
  /-- Removes an entry that is of no use. -/
  | discard (digest : UInt64)
  /-- Writes the index. -/
  | publish (digests : List UInt64)
deriving DecidableEq, Repr

/-- Where effects leave the files, and what they report. -/
structure Performed where
  tree : FileTree
  reports : List Report
  /-- Whether every index was written. -/
  published : Bool

/-- Carries out an effect. -/
def Effect.perform
    (base : String) (stamp : Store.Stamp) (tree : FileTree) :
    Effect → Performed
  | .report line => ⟨tree, [line], true⟩
  | save digest entry =>
      ⟨Store.save base digest stamp entry tree, [], true⟩
  | await _ | awaitAll => ⟨tree, [], true⟩
  | discard digest =>
      match Store.remove base digest tree with
      | .ok tree => ⟨tree, [], true⟩
      | .error _ => ⟨tree, [.undeletedEntry digest], true⟩
  | publish digests =>
      match Store.writeIndex base digests tree with
      | (.ok (), tree) => ⟨tree, [], true⟩
      | (.error _, tree) =>
          ⟨tree, [.unwrittenIndex (Path.join base Store.indexNames)], false⟩

/-- Carries out effects in turn. -/
def performAll (base : String) (stamp : Store.Stamp) :
    List Effect → FileTree → Performed
  | [], tree => ⟨tree, [], true⟩
  | effect :: rest, tree =>
      let first := effect.perform base stamp tree
      let others := performAll base stamp rest first.tree
      ⟨others.tree, first.reports ++ others.reports,
        first.published && others.published⟩

end ShaderSynth.Cache
