import Mathlib.Data.List.Nodup
import ShaderSynth.Lru

/-!
# Entries of a collection that forgets

What each operation leaves of the entries.  An entry that is found afterwards
was there before, or is the one that was put in.
-/

namespace ShaderSynth.Lru

variable {key value : Type} [DecidableEq key]

theorem mem_entries_of_get?
    {lru : Lru key value} {wanted : key} {item : value}
    (found : lru.get? wanted = some item) :
    (wanted, item) ∈ lru.entries := by
  obtain ⟨before, after, split, -⟩ := List.lookup_eq_some_iff.mp found
  rw [split]
  simp

theorem entries_erase_sublist (lru : Lru key value) (unwanted : key) :
    (lru.erase unwanted).entries.Sublist lru.entries :=
  List.filter_sublist

theorem not_mem_keys_erase (lru : Lru key value) (unwanted : key) :
    unwanted ∉ (lru.erase unwanted).keys := by
  simp

theorem entries_touch
    {lru : Lru key value} {used : key} {item : value}
    (found : lru.get? used = some item) :
    (lru.touch used).entries = (used, item) :: (lru.erase used).entries := by
  simp [touch, found]

theorem mem_of_mem_touch
    {lru : Lru key value} {used : key} {entry : key × value}
    (member : entry ∈ (lru.touch used).entries) :
    entry ∈ lru.entries := by
  cases found : lru.get? used with
  | none => simpa [touch, found] using member
  | some item =>
      rw [entries_touch found] at member
      rcases List.mem_cons.mp member with rfl | rest
      · exact mem_entries_of_get? found
      · exact (lru.entries_erase_sublist used).subset rest

theorem capacity_touch (lru : Lru key value) (used : key) :
    (lru.touch used).capacity = lru.capacity := by
  unfold touch
  split <;> rfl

theorem capacity_insert (lru : Lru key value) (new : key) (item : value) :
    (lru.insert new item).2.capacity = lru.capacity := by
  unfold insert
  dsimp only
  split <;> rfl

theorem filter_of_not_mem
    {entries : List (key × value)} {unwanted : key}
    (absent : unwanted ∉ entries.map Prod.fst) :
    entries.filter (fun entry => entry.1 ≠ unwanted) = entries := by
  rw [List.filter_eq_self]
  intro entry member
  have different : entry.1 ≠ unwanted := by
    rintro rfl
    exact absent (List.mem_map_of_mem member)
  exact decide_eq_true different

theorem erase_of_not_mem
    {lru : Lru key value} {unwanted : key} (absent : unwanted ∉ lru.keys) :
    lru.erase unwanted = lru := by
  unfold erase
  rw [filter_of_not_mem absent]

/-- Where there is room, nothing is displaced. -/
theorem insert_of_room
    {lru : Lru key value} {new : key} (item : value)
    (absent : new ∉ lru.keys) (room : lru.size < lru.capacity.size) :
    lru.insert new item =
      (none, { lru with entries := (new, item) :: lru.entries }) := by
  unfold insert
  rw [erase_of_not_mem absent]
  exact if_pos room

/-- What is put in stands first, and what it displaces stood last. -/
theorem entries_insert (lru : Lru key value) (new : key) (item : value) :
    ∃ others,
      (lru.insert new item).2.entries = (new, item) :: others ∧
        others.Sublist (lru.erase new).entries := by
  unfold insert
  dsimp only
  split
  · exact ⟨_, rfl, List.Sublist.refl _⟩
  · exact ⟨_, rfl, List.dropLast_sublist _⟩

theorem mem_of_mem_insert
    {lru : Lru key value} {new : key} {item : value} {entry : key × value}
    (member : entry ∈ (lru.insert new item).2.entries) :
    entry = (new, item) ∨ entry ∈ lru.entries := by
  obtain ⟨others, inserted, kept⟩ := lru.entries_insert new item
  rw [inserted] at member
  rcases List.mem_cons.mp member with rfl | rest
  · exact Or.inl rfl
  · exact Or.inr ((lru.entries_erase_sublist new).subset (kept.subset rest))

theorem get?_touch (lru : Lru key value) (used : key) :
    (lru.touch used).get? used = lru.get? used := by
  cases found : lru.get? used with
  | none => simp [touch, found]
  | some item => simp [get?, entries_touch found]

theorem get?_insert (lru : Lru key value) (new : key) (item : value) :
    (lru.insert new item).2.get? new = some item := by
  obtain ⟨others, inserted, -⟩ := lru.entries_insert new item
  simp [get?, inserted]

omit [DecidableEq key] in
/-- What was used least stands last. -/
theorem entries_of_popLast?
    {lru rest : Lru key value} {last : key × value}
    (popped : lru.popLast? = some (last, rest)) :
    lru.entries = rest.entries ++ [last] := by
  obtain ⟨found, ends, same⟩ := Option.map_eq_some_iff.mp popped
  obtain ⟨rfl, rfl⟩ := Prod.mk.inj same
  obtain ⟨others, split⟩ := List.getLast?_eq_some_iff.mp ends
  simp [split]

omit [DecidableEq key] in
theorem capacity_of_popLast?
    {lru rest : Lru key value} {last : key × value}
    (popped : lru.popLast? = some (last, rest)) :
    rest.capacity = lru.capacity := by
  obtain ⟨found, -, same⟩ := Option.map_eq_some_iff.mp popped
  obtain ⟨-, rfl⟩ := Prod.mk.inj same
  rfl

/-! ## Keys that are used once -/

/-- An entry that is found is the only one that erasing its key takes out. -/
theorem perm_cons_erase
    {lru : Lru key value} {wanted : key} {item : value}
    (distinct : lru.keys.Nodup) (found : lru.get? wanted = some item) :
    lru.entries.Perm ((wanted, item) :: (lru.erase wanted).entries) := by
  obtain ⟨before, after, split, -⟩ := List.lookup_eq_some_iff.mp found
  have others :
      ∀ entry ∈ before ++ after, decide (entry.1 ≠ wanted) = true := by
    intro entry member
    have unique : (wanted :: (before ++ after).map Prod.fst).Nodup := by
      simpa [keys, split, List.nodup_middle] using distinct
    have different : entry.1 ≠ wanted := by
      rintro rfl
      exact (List.nodup_cons.mp unique).1 (List.mem_map_of_mem member)
    exact decide_eq_true different
  have left : (lru.erase wanted).entries = before ++ after := by
    simp only [erase, split, List.filter_append]
    rw [List.filter_cons_of_neg (by simp), ← List.filter_append]
    exact List.filter_eq_self.mpr others
  rw [left, split]
  exact List.perm_middle

theorem entries_touch_perm
    {lru : Lru key value} (used : key) (distinct : lru.keys.Nodup) :
    (lru.touch used).entries.Perm lru.entries := by
  cases found : lru.get? used with
  | none => simp [touch, found]
  | some item =>
      rw [entries_touch found]
      exact (perm_cons_erase distinct found).symm

theorem nodup_keys_touch
    {lru : Lru key value} (used : key) (distinct : lru.keys.Nodup) :
    (lru.touch used).keys.Nodup :=
  ((entries_touch_perm used distinct).map Prod.fst).nodup_iff.mpr distinct

theorem nodup_keys_insert
    {lru : Lru key value} (new : key) (item : value)
    (distinct : lru.keys.Nodup) :
    (lru.insert new item).2.keys.Nodup := by
  obtain ⟨others, inserted, kept⟩ := lru.entries_insert new item
  have fewer := kept.map Prod.fst
  unfold keys
  rw [inserted, List.map_cons, List.nodup_cons]
  refine ⟨fun again => lru.not_mem_keys_erase new (fewer.subset again), ?_⟩
  exact distinct.sublist
    (fewer.trans ((lru.entries_erase_sublist new).map Prod.fst))

/-- Nothing is lost when an entry is put in: what is displaced is given back. -/
theorem values_insert_perm
    {lru : Lru key value} {new : key} (item : value)
    (absent : new ∉ lru.keys) :
    ((lru.insert new item).1.toList ++ (lru.insert new item).2.values).Perm
      (item :: lru.values) := by
  unfold insert
  rw [erase_of_not_mem absent]
  dsimp only
  split
  · exact List.Perm.refl _
  · cases ends : lru.entries.getLast? with
    | none =>
        have empty := List.getLast?_eq_none_iff.mp ends
        simp [values, empty]
    | some last =>
        obtain ⟨others, split⟩ := List.getLast?_eq_some_iff.mp ends
        simp only [values, split, List.dropLast_concat, List.map_append,
          List.map_cons, List.map_nil, Option.map_some, Option.toList_some]
        exact List.perm_middle.trans (List.perm_append_comm.cons item)

/-! ## Room for what was used last -/

theorem fits_touch
    {lru : Lru key value} (used : key)
    (fits : lru.size ≤ lru.capacity.size) :
    (lru.touch used).size ≤ (lru.touch used).capacity.size := by
  rw [capacity_touch]
  cases found : lru.get? used with
  | none => simpa [touch, found] using fits
  | some item =>
      have fewer : (lru.erase used).entries.length < lru.entries.length :=
        List.length_filter_lt_length_iff_exists.mpr
          ⟨(used, item), mem_entries_of_get? found, by simp⟩
      rw [size, entries_touch found]
      exact Nat.le_trans fewer fits

/-- There are never more entries than there is room for. -/
theorem fits_insert
    {lru : Lru key value} (new : key) (item : value)
    (fits : lru.size ≤ lru.capacity.size) :
    (lru.insert new item).2.size ≤ (lru.insert new item).2.capacity.size := by
  have fewer := (lru.entries_erase_sublist new).length_le
  have positive := lru.capacity.size_pos
  rw [capacity_insert]
  unfold insert
  unfold size at fits ⊢
  dsimp only
  split <;> grind

theorem prefix_erase
    {lru : Lru key value} {recent : List (key × value)} {unwanted : key}
    (first : recent <+: lru.entries)
    (other : unwanted ∉ recent.map Prod.fst) :
    recent <+: (lru.erase unwanted).entries := by
  rw [← filter_of_not_mem other]
  exact first.filter _

/-- Entries that were used last stay so, but for the one that is used now. -/
theorem prefix_touch
    {lru : Lru key value} {recent : List (key × value)} {used : key}
    {item : value}
    (first : recent <+: lru.entries) (other : used ∉ recent.map Prod.fst)
    (found : lru.get? used = some item) :
    (used, item) :: recent <+: (lru.touch used).entries := by
  rw [entries_touch found, List.cons_prefix_cons]
  exact ⟨rfl, prefix_erase first other⟩

/-- An entry that is put in displaces none of fewer than there is room for. -/
theorem prefix_insert
    {lru : Lru key value} {recent : List (key × value)} {new : key}
    (item : value)
    (first : recent <+: lru.entries) (other : new ∉ recent.map Prod.fst)
    (room : recent.length < lru.capacity.size) :
    (new, item) :: recent <+: (lru.insert new item).2.entries := by
  have kept := prefix_erase first other
  unfold insert
  dsimp only
  split
  · exact List.cons_prefix_cons.mpr ⟨rfl, kept⟩
  · rw [List.cons_prefix_cons, List.dropLast_eq_take, List.prefix_take_iff]
    exact ⟨rfl, kept, by omega⟩

end ShaderSynth.Lru
