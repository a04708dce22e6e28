import PathBag.Proofs.Tree.Names
import PathBag.Value.Tree

/-!
# Fresh names

A sequence laid over a mapping adds its items one by one, each under the next name of the entries
so far (`NextName`).  A name may read as a position without being canonical, and the greatest
position may leave no room above it, but the next name is never in use (`NextName.notMem`): it lies
above all names that are positions, or it is searched among more indices than there are names
(`exists_writeNat_notMem`).

So the entries stay as they are, and the new ones follow in the order of the items
(`merge_sequence`).
-/

namespace PathBag.Value

open Decimal

/-! ### The next name -/

/-- The greatest of the positions that the names of entries read as, canonical or not. -/
def IsTop (es : Entries Value) (top : Nat) : Prop :=
  (∃ name ∈ es.names, readPosition name = some top) ∧
    ∀ name ∈ es.names, ∀ n, readPosition name = some n → n ≤ top

/-- The name for one more item: `0` as long as no name is a position, else one past the greatest
position, and where that is no position any more the least index that is not in use. -/
inductive NextName (es : Entries Value) : String → Prop where
  | first (h : ∀ name ∈ es.names, readPosition name = none) : NextName es "0"
  | successor {top : Nat} (h : IsTop es top) (hroom : top + 1 < positionBound) :
      NextName es (writeNat (top + 1))
  | lowest {top i : Nat} (h : IsTop es top) (hfull : positionBound ≤ top + 1)
      (hfree : writeNat i ∉ es.names) (hleast : ∀ j < i, writeNat j ∈ es.names) :
      NextName es (writeNat i)

theorem readPosition_writeNat {n : Nat} (h : n < positionBound) :
    readPosition (writeNat n) = some n := by
  rw [readPosition, readNat_writeNat, Option.filter_some, if_pos (decide_eq_true h)]

namespace NextName

variable {es : Entries Value} {name : String}

theorem exists_writeNat (h : NextName es name) : ∃ n, name = writeNat n := by
  cases h with
  | first => exact ⟨0, rfl⟩
  | successor => exact ⟨_, rfl⟩
  | lowest => exact ⟨_, rfl⟩

theorem notMem (h : NextName es name) : name ∉ es.names := by
  intro hmem
  cases h with
  | first h =>
    have hzero : readPosition "0" = some 0 := by decide
    rw [h "0" hmem] at hzero
    cases hzero
  | successor h hroom =>
    have hle := h.2 _ hmem _ (readPosition_writeNat hroom)
    omega
  | lowest _ _ hfree _ => exact hfree hmem

end NextName

/-! ### The search for it -/

/-- One of the indices up to the number of names is not in use. -/
theorem exists_writeNat_notMem (names : List String) :
    ∃ i < names.length + 1, writeNat i ∉ names := by
  apply Classical.byContradiction
  intro hall
  have hsubset : (List.range (names.length + 1)).map writeNat ⊆ names := by
    intro name hname
    obtain ⟨i, hi, rfl⟩ := List.mem_map.1 hname
    apply Classical.byContradiction
    intro hfree
    exact hall ⟨i, List.mem_range.1 hi, hfree⟩
  have hnodup : ((List.range (names.length + 1)).map writeNat).Nodup :=
    List.pairwise_map.2 (List.nodup_range.imp fun hne heq => hne (writeNat_inj.1 heq))
  have hle := hnodup.length_le_of_subset hsubset
  rw [List.length_map, List.length_range] at hle
  omega

/-- Going through the indices from `0` on finds the least that is not in use. -/
theorem exists_find?_writeNat (names : List String) : ∃ i,
    ((List.range (names.length + 1)).map writeNat).find? (· ∉ names) = some (writeNat i) ∧
      writeNat i ∉ names ∧ ∀ j < i, writeNat j ∈ names := by
  rw [List.find?_map]
  cases hfind : (List.range (names.length + 1)).find? ((decide <| · ∉ names) ∘ writeNat) with
  | none =>
    obtain ⟨i, hi, hfree⟩ := exists_writeNat_notMem names
    have hused := List.find?_range_eq_none.1 hfind i hi
    simp [hfree] at hused
  | some i =>
    obtain ⟨hfree, -, hleast⟩ := List.find?_range_eq_some.1 hfind
    exact ⟨i, rfl, by simpa using hfree, by simpa using hleast⟩

theorem nextName_freshName (es : Entries Value) : NextName es (freshName es) := by
  unfold freshName
  split
  · next hmax =>
    rw [List.max?_eq_none_iff, List.filterMap_eq_nil_iff] at hmax
    exact .first hmax
  · next top hmax =>
    obtain ⟨hmem, hle⟩ := List.max?_eq_some_iff.1 hmax
    have htop : IsTop es top := by
      refine ⟨List.mem_filterMap.1 hmem, ?_⟩
      intro name hname n hn
      exact hle n (List.mem_filterMap.2 ⟨name, hname, hn⟩)
    split
    · next hroom => exact .successor htop hroom
    · next hfull =>
      obtain ⟨i, hfind, hfree, hleast⟩ := exists_find?_writeNat es.names
      rw [Entries.names, List.length_map, ← Entries.names] at hfind
      rw [hfind]
      exact .lowest htop (Nat.le_of_not_lt hfull) hfree hleast

/-- Names count as positions even where they are not canonical. -/
example : freshName [("+6", null), ("007", null)] = "8" := by decide

/-! ### Items under new names -/

/-- Each of the new entries takes the next name of the entries before it. -/
def Numbered : Entries Value → Entries Value → Prop
  | _, [] => True
  | es, e :: news => NextName es e.1 ∧ Numbered (es ++ [e]) news

theorem exists_addItems_eq (es : Entries Value) (xs : List Value) : ∃ news : Entries Value,
    addItems es xs = es ++ news ∧ news.map (·.2) = xs ∧ Numbered es news := by
  induction xs generalizing es with
  | nil => exact ⟨[], (List.append_nil es).symm, rfl, trivial⟩
  | cons x xs ih =>
    have hnext := nextName_freshName es
    obtain ⟨news, hadd, hitems, hnews⟩ := ih (es ++ [(freshName es, x)])
    refine ⟨(freshName es, x) :: news, ?_, congrArg (x :: ·) hitems, hnext, hnews⟩
    rw [addItems, Entries.insert, Entries.upsert_of_notMem hnext.notMem, hadd, List.append_assoc]
    rfl

/-- The new names are canonical decimals that the entries before do not have. -/
theorem Numbered.fresh {es news : Entries Value} (h : Numbered es news) :
    ∀ name ∈ news.names, (∃ n, name = writeNat n) ∧ name ∉ es.names := by
  induction news generalizing es with
  | nil => exact List.forall_mem_nil _
  | cons e news ih =>
    obtain ⟨hnext, hnews⟩ := h
    refine List.forall_mem_cons.2 ⟨⟨hnext.exists_writeNat, hnext.notMem⟩, ?_⟩
    intro name hname
    obtain ⟨hdecimal, hnot⟩ := ih hnews name hname
    rw [Entries.names_append] at hnot
    exact ⟨hdecimal, fun hmem => hnot (List.mem_append_left _ hmem)⟩

theorem Numbered.nodup {es news : Entries Value} (h : Numbered es news) : news.names.Nodup := by
  induction news generalizing es with
  | nil => exact List.nodup_nil
  | cons e news ih =>
    refine List.nodup_cons.2 ⟨?_, ih h.2⟩
    intro hmem
    have hnot := (h.2.fresh e.1 hmem).2
    rw [Entries.names_append] at hnot
    exact hnot (List.mem_append_right _ List.mem_cons_self)

/-- **A sequence over a mapping loses nothing.**  The entries of the mapping stay as they are, in
their places.  Behind them comes one new entry for each item, in order, and each takes the next name
of the entries so far.  So the new names are canonical decimals, all different, and none of them
was in use. -/
theorem merge_sequence (b : String × Value) (bs : Entries Value) (xs : List Value) :
    ∃ news : Entries Value,
      (mapping (b :: bs)).merge (sequence xs) = mapping (b :: bs ++ news) ∧
      news.map (·.2) = xs ∧ Numbered (b :: bs) news ∧ news.names.Nodup ∧
      ∀ name ∈ news.names, (∃ n, name = writeNat n) ∧ name ∉ Entries.names (b :: bs) := by
  obtain ⟨news, hadd, hitems, hnews⟩ := exists_addItems_eq (b :: bs) xs
  refine ⟨news, ?_, hitems, hnews, hnews.nodup, hnews.fresh⟩
  rw [merge, hadd]

/-- There is no position above the greatest name, so the items take the indices that are free. -/
theorem merge_sequence_full :
    (mapping [("18446744073709551615", null), ("1", int 5), ("00", int 6)]).merge
        (sequence [bool true, bool false]) =
      mapping [("18446744073709551615", null), ("1", int 5), ("00", int 6), ("0", bool true),
        ("2", bool false)] ∧
    NextName [("18446744073709551615", null), ("1", int 5), ("00", int 6), ("0", bool true)]
      "2" := by
  have hmerge : (mapping [("18446744073709551615", null), ("1", int 5), ("00", int 6)]).merge
        (sequence [bool true, bool false]) =
      mapping [("18446744073709551615", null), ("1", int 5), ("00", int 6), ("0", bool true),
        ("2", bool false)] := rfl
  obtain ⟨news, hnews, -, hnumbered, -⟩ := merge_sequence ("18446744073709551615", null)
    [("1", int 5), ("00", int 6)] [bool true, bool false]
  rw [hmerge] at hnews
  obtain rfl : [("0", bool true), ("2", bool false)] = news := by simpa using hnews
  exact ⟨hmerge, hnumbered.2.1⟩

end PathBag.Value
