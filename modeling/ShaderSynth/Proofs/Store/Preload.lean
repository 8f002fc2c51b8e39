import ShaderSynth.Proofs.FileTree.Locality
import ShaderSynth.Proofs.Store.Framing
import ShaderSynth.Proofs.Store.Ladder

/-!
# What is made ready from the index

Preloading goes through the index position by position, and removes files as it
goes.  What it finds at one position might therefore depend on the positions
before.  It does not: only files of digests that cannot be loaded are removed,
every digest has a file of its own, and a digest without a file cannot be
loaded either.  A file that the tree refuses to remove stays, and its digest
cannot be loaded the next time either.

`FileTree.Prunes` says what the removals do to a tree, and `Staging.Follows`
relates what has been made ready to the tree as it was at the beginning.
-/

namespace ShaderSynth

/-! ## Trees that lose files -/

namespace FileTree

/-- A path leads to a place where there is a file. -/
def FileAt (tree : FileTree) (path : Path) (place : Place) : Prop :=
  tree.locate path = .ok place ∧
    ∃ bytes, tree.get? place = some (.file bytes)

/-- A path leads to a place where there is a file that can be removed. -/
def LooseAt (tree : FileTree) (path : Path) (place : Place) : Prop :=
  tree.FileAt path place ∧ (.remove, place) ∉ tree.refused

/-- Files at some places are gone, and nothing else has changed. -/
structure Prunes
    (gone : Place → Prop) (before after : FileTree) : Prop where
  refused : after.refused = before.refused
  files :
    ∀ {place}, gone place →
      ∃ bytes, before.get? place = some (.file bytes)
  removed : ∀ {place}, gone place → after.get? place = none
  others : ∀ {place}, ¬ gone place → after.get? place = before.get? place

namespace Prunes

variable {gone more : Place → Prop} {before middle after : FileTree}
  {path : Path} {place : Place}

theorem refl (tree : FileTree) : Prunes (fun _ => False) tree tree where
  refused := rfl
  files := False.elim
  removed := False.elim
  others := fun _ => rfl

theorem congr (prunes : Prunes gone before after)
    (same : ∀ place, gone place ↔ more place) :
    Prunes more before after := by
  obtain rfl : gone = more := funext fun place => propext (same place)
  exact prunes

theorem trans (first : Prunes gone before middle)
    (second : Prunes more middle after) :
    Prunes (fun place => gone place ∨ more place) before after where
  refused := second.refused.trans first.refused
  files := by
    intro place either
    by_cases already : gone place
    · exact first.files already
    · rw [← first.others already]
      exact second.files (either.resolve_left already)
  removed := by
    intro place either
    by_cases later : more place
    · exact second.removed later
    · rw [second.others later]
      exact first.removed (either.resolve_right later)
  others := by
    intro place kept
    rw [second.others (fun later => kept (.inr later)),
      first.others (fun already => kept (.inl already))]

theorem keeps (prunes : Prunes gone before after) : Keeps before after := by
  intro place directory
  have kept : ¬ gone place := by
    intro lost
    obtain ⟨bytes, file⟩ := prunes.files lost
    rw [directory] at file
    cases file
  rw [prunes.others kept, directory]

theorem kept (prunes : Prunes gone before after) : Keeps after before := by
  intro place directory
  have kept : ¬ gone place := by
    intro lost
    rw [prunes.removed lost] at directory
    cases directory
  rw [← prunes.others kept, directory]

/-- Paths lead where they led: that is a matter of directories. -/
theorem locate_iff (prunes : Prunes gone before after) :
    after.locate path = .ok place ↔ before.locate path = .ok place :=
  ⟨prunes.kept.locate, prunes.keeps.locate⟩

theorem get?_eq_some_iff (prunes : Prunes gone before after) {node : Node} :
    after.get? place = some node ↔
      before.get? place = some node ∧ ¬ gone place := by
  by_cases lost : gone place
  · simp [prunes.removed lost, lost]
  · simp [prunes.others lost, lost]

theorem fileAt_iff (prunes : Prunes gone before after) :
    after.FileAt path place ↔ before.FileAt path place ∧ ¬ gone place := by
  simp only [FileAt, prunes.locate_iff, prunes.get?_eq_some_iff,
    exists_and_right, and_assoc]

theorem looseAt_iff (prunes : Prunes gone before after) :
    after.LooseAt path place ↔ before.LooseAt path place ∧ ¬ gone place := by
  rw [LooseAt, LooseAt, prunes.fileAt_iff, prunes.refused, and_right_comm]

theorem read_eq_ok_iff (prunes : Prunes gone before after)
    {bytes : List UInt8} :
    after.read path = .ok bytes ↔
      before.read path = .ok bytes ∧
        ∀ {place}, before.FileAt path place → ¬ gone place := by
  rw [FileTree.read_eq_ok_iff, FileTree.read_eq_ok_iff]
  simp only [prunes.locate_iff, prunes.get?_eq_some_iff]
  constructor
  · rintro ⟨place, located, file, kept⟩
    refine ⟨⟨place, located, file⟩, ?_⟩
    intro other found
    obtain rfl : place = other := by
      simpa [located] using found.1
    exact kept
  · rintro ⟨⟨place, located, file⟩, kept⟩
    exact ⟨place, located, file, kept ⟨located, bytes, file⟩⟩

end Prunes

/-- Whether removing succeeds or not, no file is left that can be removed. -/
theorem prunes_drop (tree : FileTree) (path : Path) :
    Prunes (tree.LooseAt path) tree ((Action.drop path).after tree) := by
  refine ⟨Action.refused_after _ tree, fun loose => loose.1.2, ?_, ?_⟩
  · rintro place ⟨⟨located, bytes, file⟩, permitted⟩
    rw [Action.get?_after, Action.edits,
      Action.edits?_drop_of_file located file, if_neg permitted]
    simp
  · intro place firm
    refine Action.get?_after_of_not_mem fun member => firm ?_
    have dropped : (Action.drop path).succeeds tree = true := by
      rw [Action.succeeds_eq, Option.isSome_iff_ne_none]
      intro failed
      simp [Action.touched, Action.edits, failed] at member
    obtain ⟨home, located, ⟨bytes, file⟩, edits⟩ :=
      Action.edits?_of_drop dropped
    obtain rfl : place = home := by
      simpa [Action.touched, Action.edits, edits] using member
    rw [Action.edits?_drop_of_file located file] at edits
    exact ⟨⟨located, bytes, file⟩, by simpa using edits⟩

end FileTree

namespace Store

open FileTree

/-! ## Files of entries -/

/-- No file belongs to two digests. -/
theorem eq_of_fileAt {base : String} {digest other : UInt64}
    {tree : FileTree} {place : Place}
    (first : tree.FileAt (entryPath base digest) place)
    (second : tree.FileAt (entryPath base other) place) :
    digest = other := by
  obtain ⟨home, led, rfl⟩ := locate_append (entryNames_isPlain digest) first.1
  obtain ⟨same, again, below⟩ :=
    locate_append (entryNames_isPlain other) second.1
  obtain rfl : home = same := by
    rw [led] at again
    exact Except.ok.inj again
  exact entryNames_injective (List.append_cancel_left below)

/-- An entry that can be loaded is what its file holds under the stamp. -/
theorem read_of_load {base : String} {digest : UInt64} {stamp : Stamp}
    {entry : Entry} {tree : FileTree}
    (loaded : load base digest stamp tree = .ok entry) :
    ∃ bytes,
      tree.read (entryPath base digest) = .ok bytes ∧
        Entry.ofBytes stamp bytes = .ok entry := by
  unfold load at loaded
  split at loaded
  · cases loaded
  · rename_i bytes content
    split at loaded
    · cases loaded
    · rename_i found parsed
      split at loaded
      · rw [← Except.ok.inj loaded]
        exact ⟨bytes, content, parsed⟩
      · cases loaded

/-- Entries that were written under another stamp cannot be loaded. -/
theorem isOk_load_foreign {base : String} {digest : UInt64}
    {stamp foreign : Stamp} {entry : Entry} {tree : FileTree}
    (written :
      tree.read (entryPath base digest) = .ok (entry.toBytes foreign))
    (different : foreign ≠ stamp) :
    (load base digest stamp tree).isOk = false := by
  cases loaded : load base digest stamp tree with
  | error error => rfl
  | ok found =>
      obtain ⟨bytes, content, parsed⟩ := read_of_load loaded
      obtain rfl : entry.toBytes foreign = bytes := by
        rw [written] at content
        exact Except.ok.inj content
      rw [← List.append_nil (entry.toBytes foreign)] at parsed
      exact absurd (Entry.eq_of_ofBytes_append parsed).1 different

/-! ## The index -/

/-- The digests fill the bytes up to an incomplete rest. -/
theorem exists_rest (bytes : List UInt8) :
    ∃ rest,
      bytes = (digestsOfBytes bytes).flatMap Format.wordBytes ++ rest ∧
        rest.length < 8 := by
  fun_induction digestsOfBytes bytes with
  | case1 b0 b1 b2 b3 b4 b5 b6 b7 rest ih =>
      obtain ⟨behind, split, short⟩ := ih
      refine ⟨behind, ?_, short⟩
      rw [List.flatMap_cons, Format.wordBytes_wordOfBytes, List.append_assoc,
        ← split]
      rfl
  | case2 bytes short =>
      refine ⟨bytes, rfl, ?_⟩
      rcases bytes with _ | ⟨b0, _ | ⟨b1, _ | ⟨b2, _ | ⟨b3, _ | ⟨b4, _ |
        ⟨b5, _ | ⟨b6, _ | ⟨b7, rest⟩⟩⟩⟩⟩⟩⟩⟩
      on_goal 9 => exact absurd rfl (short b0 b1 b2 b3 b4 b5 b6 b7 rest)
      all_goals simp

/-! ## Position by position -/

namespace Staging

/--
A file of a digest at one of these positions that cannot be loaded but can be
removed.
-/
def Rejected
    (base : String) (stamp : Stamp) (tree : FileTree)
    (digests : List UInt64) (place : Place) : Prop :=
  ∃ digest ∈ digests,
    (load base digest stamp tree).isOk = false ∧
      tree.LooseAt (entryPath base digest) place

/-- What has been made ready after some positions of the index. -/
structure Follows
    (base : String) (stamp : Stamp) (tree : FileTree)
    (digests : List UInt64) (staging : Staging) : Prop where
  keys :
    staging.staged.map Prod.fst =
      (digests.filter fun digest =>
        (load base digest stamp tree).isOk).eraseDups
  loaded :
    ∀ item ∈ staging.staged, load base item.1 stamp tree = .ok item.2
  rejects :
    staging.rejects =
      digests.countP fun digest => !(load base digest stamp tree).isOk
  pruned : Prunes (Rejected base stamp tree digests) tree staging.tree

namespace Follows

variable {base : String} {stamp : Stamp} {tree : FileTree}
  {digests : List UInt64} {staging : Staging} {digest : UInt64}

theorem start (base : String) (stamp : Stamp) (tree : FileTree) :
    Follows base stamp tree [] ⟨[], 0, tree⟩ where
  keys := rfl
  loaded := by simp
  rejects := rfl
  pruned := (Prunes.refl tree).congr fun place => by simp [Rejected]

/-- What was removed does not matter to what can be loaded. -/
theorem load_eq_ok_iff (follows : Follows base stamp tree digests staging)
    {entry : Entry} :
    load base digest stamp staging.tree = .ok entry ↔
      load base digest stamp tree = .ok entry := by
  constructor
  · intro loaded
    refine load_mono ?_ loaded
    intro bytes content
    exact (follows.pruned.read_eq_ok_iff.mp content).1
  · intro loaded
    refine load_mono ?_ loaded
    intro bytes content
    refine follows.pruned.read_eq_ok_iff.mpr ⟨content, ?_⟩
    rintro place file ⟨other, -, failed, same, -⟩
    obtain rfl := eq_of_fileAt file same
    rw [loaded] at failed
    cases failed

theorem lookup_isSome_iff
    (follows : Follows base stamp tree digests staging) :
    (staging.staged.lookup digest).isSome ↔
      digest ∈ digests ∧ (load base digest stamp tree).isOk := by
  have member :
      digest ∈ staging.staged.map Prod.fst ↔
        digest ∈ digests ∧ (load base digest stamp tree).isOk := by
    rw [follows.keys, List.mem_eraseDups, List.mem_filter]
  rw [← member, Option.isSome_iff_ne_none, ne_eq, List.lookup_eq_none_iff]
  simp only [bne_iff_ne, not_forall, not_not, List.mem_map, exists_prop,
    eq_comm (b := digest)]

/-- A position whose digest can be loaded, whether it is the first or not. -/
theorem add_ok (follows : Follows base stamp tree digests staging)
    {entry : Entry} (loaded : load base digest stamp tree = .ok entry) :
    Follows base stamp tree (digests ++ [digest])
      (staging.add base stamp digest) := by
  have succeeds : (load base digest stamp tree).isOk = true := by
    rw [loaded]
    rfl
  have pruned :
      Prunes (Rejected base stamp tree (digests ++ [digest])) tree
        staging.tree := by
    refine follows.pruned.congr fun place => ?_
    simp [Rejected, or_and_right, exists_or, succeeds]
  have counted :
      (digests ++ [digest]).countP
          (fun digest => !(load base digest stamp tree).isOk) =
        staging.rejects := by
    rw [follows.rejects, List.countP_append]
    simp [succeeds]
  have listed :
      ((digests ++ [digest]).filter fun digest =>
          (load base digest stamp tree).isOk).eraseDups =
        staging.staged.map Prod.fst ++
          ([digest].removeAll (digests.filter fun digest =>
            (load base digest stamp tree).isOk)).eraseDups := by
    have single :
        ([digest].filter fun digest =>
          (load base digest stamp tree).isOk) = [digest] := by
      simp [succeeds]
    rw [follows.keys, ← List.eraseDups_append, List.filter_append, single]
  by_cases ready : (staging.staged.lookup digest).isSome
  · have again := follows.lookup_isSome_iff.mp ready
    rw [Staging.add, if_pos ready]
    refine ⟨?_, follows.loaded, counted.symm, pruned⟩
    rw [listed]
    simp [List.removeAll, again.1, succeeds]
  · have first : digest ∉ digests := by
      intro member
      exact ready (follows.lookup_isSome_iff.mpr ⟨member, succeeds⟩)
    rw [Staging.add, if_neg ready, follows.load_eq_ok_iff.mpr loaded]
    refine ⟨?_, ?_, counted.symm, pruned⟩
    · rw [listed]
      simp [List.removeAll, first, List.eraseDups_cons]
    · intro item member
      rcases List.mem_append.mp member with earlier | last
      · exact follows.loaded item earlier
      · rw [List.mem_singleton.mp last]
        exact loaded

/-- A position whose digest cannot be loaded. -/
theorem add_error (follows : Follows base stamp tree digests staging)
    (failed : (load base digest stamp tree).isOk = false) :
    Follows base stamp tree (digests ++ [digest])
      (staging.add base stamp digest) := by
  have missing : ¬ (staging.staged.lookup digest).isSome := by
    intro ready
    rw [(follows.lookup_isSome_iff.mp ready).2] at failed
    cases failed
  have still :
      ∃ error, load base digest stamp staging.tree = .error error := by
    cases now : load base digest stamp staging.tree with
    | error error => exact ⟨error, rfl⟩
    | ok entry =>
        rw [follows.load_eq_ok_iff.mp now] at failed
        cases failed
  obtain ⟨error, still⟩ := still
  rw [Staging.add, if_neg missing, still]
  refine ⟨?_, follows.loaded, ?_, ?_⟩
  · rw [follows.keys, List.filter_append,
      List.filter_cons_of_neg (by simp [failed]), List.filter_nil,
      List.append_nil]
  · rw [List.countP_append, ← follows.rejects]
    simp [failed]
  · have dropped := prunes_drop staging.tree (entryPath base digest)
    rw [after_drop_entry] at dropped
    refine (follows.pruned.trans dropped).congr ?_
    intro place
    -- A file that is removed now was there from the beginning.
    have now :
        Rejected base stamp tree digests place ∨
            staging.tree.LooseAt (entryPath base digest) place ↔
          Rejected base stamp tree digests place ∨
            tree.LooseAt (entryPath base digest) place := by
      rw [follows.pruned.looseAt_iff]
      by_cases already : Rejected base stamp tree digests place <;>
        simp [already]
    rw [now]
    simp [Rejected, or_and_right, exists_or, failed]

theorem add (follows : Follows base stamp tree digests staging)
    (digest : UInt64) :
    Follows base stamp tree (digests ++ [digest])
      (staging.add base stamp digest) := by
  cases loaded : load base digest stamp tree with
  | ok entry => exact follows.add_ok loaded
  | error error => exact follows.add_error (by rw [loaded]; rfl)

theorem foldl (follows : Follows base stamp tree digests staging)
    (more : List UInt64) :
    Follows base stamp tree (digests ++ more)
      (more.foldl (Staging.add base stamp) staging) := by
  induction more generalizing digests staging with
  | nil => rwa [List.append_nil]
  | cons digest rest ih =>
      have next := ih (follows.add digest)
      rwa [List.append_assoc] at next

end Follows

end Staging

/-- The index is there and holds these bytes, or there is none. -/
def IndexHolds (base : String) (tree : FileTree) (bytes : List UInt8) : Prop :=
  tree.read (pathBelow base indexNames) = .ok bytes ∨
    tree.read (pathBelow base indexNames) = .error .notFound ∧ bytes = []

theorem follows_preload {base : String} {tree : FileTree}
    {bytes : List UInt8} (stamp : Stamp)
    (index : IndexHolds base tree bytes) :
    Staging.Follows base stamp tree (digestsOfBytes bytes)
      (preload base stamp tree) := by
  have read : readIndex base tree = .ok (digestsOfBytes bytes) := by
    unfold readIndex
    rcases index with content | ⟨missing, rfl⟩
    · rw [content]
    · rw [missing]
      rfl
  unfold preload
  rw [read]
  exact (Staging.Follows.start base stamp tree).foldl _

/--
Preloading makes ready just what the index lists and the tree has to offer.
The bytes of the index are digests up to an incomplete rest.  Those that can be
loaded are made ready, in the order in which they are first listed, and each
with an entry of this digest.  The file of a listed digest that cannot be
loaded is gone, unless the tree refuses to remove it, nothing else in the tree
has changed, and every position of such a digest is counted.  Entries that
were written under another stamp are not made ready.
-/
theorem preload_exact
    (base : String) (stamp : Stamp) (tree : FileTree) (bytes : List UInt8)
    (index : IndexHolds base tree bytes) :
    let after := preload base stamp tree
    let digests := digestsOfBytes bytes
    let loads := fun digest => (load base digest stamp tree).isOk
    (∃ rest,
        bytes = digests.flatMap Format.wordBytes ++ rest ∧
          rest.length < 8) ∧
      after.staged.map Prod.fst = (digests.filter loads).eraseDups ∧
      (after.staged.map Prod.fst).Nodup ∧
      (∀ item ∈ after.staged,
        load base item.1 stamp tree = .ok item.2 ∧
          item.2.state.digest = item.1) ∧
      (∀ place,
        (∃ digest ∈ digests,
          loads digest = false ∧
            tree.FileAt (entryPath base digest) place) →
          (.remove, place) ∉ tree.refused → after.tree.get? place = none) ∧
      (∀ place,
        ((¬ ∃ digest ∈ digests,
          loads digest = false ∧
            tree.FileAt (entryPath base digest) place) ∨
          (.remove, place) ∈ tree.refused) →
          after.tree.get? place = tree.get? place) ∧
      after.rejects = digests.countP (fun digest => !loads digest) ∧
      ∀ digest foreign entry,
        tree.read (entryPath base digest) = .ok (Entry.toBytes foreign entry) →
          foreign ≠ stamp →
            digest ∉ after.staged.map Prod.fst := by
  intro after digests loads
  have follows := follows_preload stamp index
  refine ⟨exists_rest bytes, follows.keys,
    (keyed_preload base stamp tree).distinct, ?_, ?_, ?_, follows.rejects, ?_⟩
  · intro item member
    have loaded := follows.loaded item member
    exact ⟨loaded, digest_of_load loaded⟩
  · rintro place ⟨digest, listed, failed, file⟩ permitted
    exact follows.pruned.removed ⟨digest, listed, failed, file, permitted⟩
  · intro place kept
    refine follows.pruned.others ?_
    rintro ⟨digest, listed, failed, file, permitted⟩
    exact kept.elim (fun none => none ⟨digest, listed, failed, file⟩) permitted
  · intro digest foreign entry written different ready
    rw [follows.keys, List.mem_eraseDups, List.mem_filter,
      isOk_load_foreign written different] at ready
    cases ready.2

/--
The index lists a garbled entry, one that can be loaded, a garbled one that is
protected and the first one again, and then breaks off.
-/
theorem preload_exact_garbled :
    let stamp : Stamp := ⟨"1", "v"⟩
    let entry : Entry := ⟨default, ⟨1, []⟩⟩
    let home : Place := ["c", "shaders", "0000"]
    let valid : Place := ["c", "shaders", "51c8", "b2595b85ed5b"]
    let digests := [7, entry.state.digest, 8, 7]
    let bytes := digests.flatMap Format.wordBytes ++ [1]
    let tree : FileTree :=
      { nodes :=
          [(["c"], .directory), (["c", "shader_cache_list"], .file bytes),
            (["c", "shaders"], .directory), (home, .directory),
            (home ++ ["000000000007"], .file [0]),
            (home ++ ["000000000008"], .file [0]),
            (["c", "shaders", "51c8"], .directory),
            (valid, .file (entry.toBytes stamp))]
        refused := [(.remove, home ++ ["000000000008"])] }
    let after := preload "c" stamp tree
    IndexHolds "c" tree bytes ∧
      after.staged.map Prod.fst = [entry.state.digest] ∧
      after.rejects = 3 ∧
      after.tree.get? (home ++ ["000000000007"]) = none ∧
      after.tree.get? (home ++ ["000000000008"]) = some (.file [0]) ∧
      after.tree.get? valid = some (.file (entry.toBytes stamp)) := by
  intro stamp entry home valid digests bytes tree after
  have keyed : entry.state.digest = 5893156209271631195 := by decide +kernel
  have index : IndexHolds "c" tree bytes := .inl rfl
  have first : entryPath "c" 7 = home ++ ["000000000007"] := by decide +kernel
  have second : entryPath "c" 8 = home ++ ["000000000008"] := by
    decide +kernel
  have third : entryPath "c" entry.state.digest = valid := by
    rw [keyed]
    decide +kernel
  have file : tree.FileAt (entryPath "c" 7) (home ++ ["000000000007"]) := by
    rw [first]
    exact ⟨rfl, [0], rfl⟩
  have failed : (load "c" 7 stamp tree).isOk = false := by
    unfold load
    rw [← entryPath, first]
    rfl
  have barred : (load "c" 8 stamp tree).isOk = false := by
    unfold load
    rw [← entryPath, second]
    rfl
  have loaded : load "c" entry.state.digest stamp tree = .ok entry := by
    have fits : entry.Fits stamp :=
      ⟨⟨by decide, by decide⟩, trivial, by decide⟩
    refine load_of_read ?_ (Entry.ofBytes_toBytes fits) rfl
    rw [← entryPath, third]
    rfl
  have loads : (load "c" entry.state.digest stamp tree).isOk = true := by
    rw [loaded]
    rfl
  obtain ⟨-, keys, -, -, removed, others, rejects, -⟩ :=
    preload_exact "c" stamp tree bytes index
  have listed : digestsOfBytes bytes = digests :=
    digestsOfBytes_append digests [1]
  rw [listed] at keys removed others rejects
  refine ⟨index, ?_, ?_, ?_, ?_, ?_⟩
  · rw [keys]
    simp [digests, failed, barred, loads, List.eraseDups_cons]
  · rw [rejects]
    simp [digests, failed, barred, loads]
  · exact removed _ ⟨7, by simp [digests], failed, file⟩ (by decide)
  · exact others _ (.inr (List.mem_singleton_self _))
  · refine others valid (.inl ?_)
    rintro ⟨digest, -, fails, other⟩
    have own : tree.FileAt (entryPath "c" entry.state.digest) valid := by
      rw [third]
      exact ⟨rfl, _, rfl⟩
    rw [eq_of_fileAt other own] at fails
    exact absurd (loads.symm.trans fails) (by decide)

end Store

end ShaderSynth
