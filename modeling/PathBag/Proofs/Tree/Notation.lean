import PathBag.Proofs.Tree.Keys

/-!
# What a notation can carry

Keys have no escapes.  So a path comes back from its text only if its segments are free of the
characters that the notation is made of: of `.` and `[` in dotted text, and of both brackets in
bracketed text.  The other way round nothing is lost in a key without `[`, which is the dotted text
of its path.

The conditions are necessary because the segments of a key never hold what the key was cut at.
-/

namespace PathBag.Path

/-! ### Dotted text -/

theorem toList_dotted (path : Path) :
    path.dotted.toList = ['.'].intercalate (path.map String.toList) := String.toList_intercalate

/-- Dotted text is made of the segments and of dots. -/
theorem mem_toList_dotted {path : Path} {c : Char} (hc : c ∈ path.dotted.toList) :
    c = '.' ∨ ∃ s ∈ path, c ∈ s.toList := by
  cases path with
  | nil => cases hc
  | cons s path =>
    rw [toList_dotted, List.map_cons, intercalate_cons, List.flatMap_map, List.mem_append,
      List.mem_flatMap] at hc
    rcases hc with hc | ⟨t, ht, hc⟩
    · exact .inr ⟨s, List.mem_cons_self, hc⟩
    · rcases List.mem_cons.1 hc with hdot | hc
      · exact .inl hdot
      · exact .inr ⟨t, List.mem_cons_of_mem s ht, hc⟩

theorem open_notMem_dotted {path : Path} (h : ∀ s ∈ path, '[' ∉ s.toList) :
    '[' ∉ path.dotted.toList := by
  intro hmem
  rcases mem_toList_dotted hmem with hdot | ⟨s, hs, hopen⟩
  · exact absurd hdot (by decide)
  · exact h s hs hopen

/-- Only the root and the path of one empty segment have no dotted text. -/
theorem dotted_eq_empty_iff {path : Path} : path.dotted = "" ↔ path = [] ∨ path = [""] := by
  constructor
  · intro h
    match path with
    | [] => exact .inl rfl
    | [s] =>
      rw [dotted, String.intercalate_singleton] at h
      exact .inr (by rw [h])
    | s :: s' :: path =>
      rw [dotted, String.intercalate_cons_cons] at h
      simp at h
  · rintro (rfl | rfl)
    · rfl
    · rfl

/-- A key without `[` is the dotted text of its path. -/
theorem dotted_ofKey {key : String} (hkey : '[' ∉ key.toList) : (ofKey key).dotted = key := by
  by_cases hne : key = ""
  · subst hne
    rfl
  · rw [← String.toList_inj, toList_dotted, ofKey_of_dotted hne hkey, List.map_map]
    have hid : String.toList ∘ String.ofList = id := funext fun cs => String.toList_ofList
    rw [hid, List.map_id, intercalate_splitAt]

/-- The paths that their dotted text leads back to. -/
theorem ofKey_dotted_iff {path : Path} :
    ofKey path.dotted = path ↔
      path = [] ∨ path ≠ [""] ∧ ∀ s ∈ path, '.' ∉ s.toList ∧ '[' ∉ s.toList := by
  constructor
  · intro h
    refine .inr ⟨?_, fun s hs => ?_⟩
    · rintro rfl
      cases h
    · have hopen : '[' ∉ path.dotted.toList :=
        open_notMem_dotted fun t ht => open_notMem_of_mem_ofKey (h.symm ▸ ht)
      exact dotted_segments hopen (h.symm ▸ hs)
  · rintro (rfl | ⟨hroot, hsegments⟩)
    · rfl
    by_cases hnil : path = []
    · subst hnil
      rfl
    have hne : path.dotted ≠ "" := by
      intro h
      rcases dotted_eq_empty_iff.1 h with h | h
      · exact hnil h
      · exact hroot h
    have hopen : '[' ∉ path.dotted.toList := open_notMem_dotted fun t ht => (hsegments t ht).2
    have hparts : ∀ part ∈ path.map String.toList, '.' ∉ part := by
      intro part hpart
      obtain ⟨s, hs, rfl⟩ := List.mem_map.1 hpart
      exact (hsegments s hs).1
    rw [ofKey_of_dotted hne hopen, toList_dotted,
      splitAt_intercalate (mt List.map_eq_nil_iff.1 hnil) hparts, List.map_map]
    simp

/-! ### Bracketed text -/

theorem toList_bracketed (first : String) (rest : Path) :
    (bracketed (first :: rest)).toList =
      first.toList ++ rest.flatMap fun s => '[' :: (s.toList ++ [']']) := by
  simp [bracketed, String.toList_join, List.flatMap_map]

theorem open_mem_bracketed {path : Path} (h : 2 ≤ path.length) : '[' ∈ path.bracketed.toList := by
  match path, h with
  | first :: s :: rest, _ => simp [toList_bracketed]

/-- Without its closing brackets a bracketed text is the segments with an opening one between
them. -/
theorem filter_bracketed {path : Path} (h : ∀ s ∈ path, ']' ∉ s.toList) :
    path.bracketed.toList.filter (· ≠ ']') = ['['].intercalate (path.map String.toList) := by
  cases path with
  | nil => rfl
  | cons first rest =>
    obtain ⟨hfirst, hrest⟩ := List.forall_mem_cons.1 h
    have hkeep {s : String} (hs : ']' ∉ s.toList) : s.toList.filter (· ≠ ']') = s.toList := by
      refine List.filter_eq_self.2 fun c hc => ?_
      rw [decide_eq_true_iff]
      rintro rfl
      exact hs hc
    have hblock : ∀ s ∈ rest, ('[' :: (s.toList ++ [']'])).filter (· ≠ ']') = '[' :: s.toList := by
      intro s hs
      rw [List.filter_cons_of_pos (by decide), List.filter_append, hkeep (hrest s hs)]
      simp
    rw [toList_bracketed, List.filter_append, hkeep hfirst, List.map_cons, intercalate_cons,
      List.filter_flatMap, List.flatMap_map, List.flatMap_def, List.flatMap_def,
      List.map_congr_left hblock]

/-- The paths that their bracketed text leads back to. -/
theorem ofKey_bracketed_iff {path : Path} (h : 2 ≤ path.length) :
    ofKey path.bracketed = path ↔ ∀ s ∈ path, '[' ∉ s.toList ∧ ']' ∉ s.toList := by
  have hopen := open_mem_bracketed h
  constructor
  · intro hpath s hs
    exact bracketed_segments hopen (hpath.symm ▸ hs)
  · intro hsegments
    have hparts : ∀ part ∈ path.map String.toList, '[' ∉ part := by
      intro part hpart
      obtain ⟨s, hs, rfl⟩ := List.mem_map.1 hpart
      exact (hsegments s hs).1
    have hnil : path.map String.toList ≠ [] := by
      intro hnil
      rw [List.map_eq_nil_iff.1 hnil] at h
      cases h
    rw [ofKey_of_bracketed hopen, filter_bracketed fun s hs => (hsegments s hs).2,
      splitAt_intercalate hnil hparts, List.map_map]
    simp

/-! ### Both notations -/

theorem toKey_of_dot {path : Path} (h : ∃ s ∈ path, '.' ∈ s.toList) :
    path.toKey = path.bracketed := by
  rw [toKey, if_pos]
  simpa using h

theorem toKey_of_no_dot {path : Path} (h : ∀ s ∈ path, '.' ∉ s.toList) :
    path.toKey = path.dotted := by
  rw [toKey, if_neg]
  simpa using h

/-- **What keys carry.**  A key without `[` is the dotted text of its path.  A path comes back from
its dotted text exactly if it is the root, or is not the one empty segment and has no `.` and no `[`
in its segments.  A path of at least two segments comes back from its bracketed text exactly if it
has no bracket of either kind in them. -/
theorem ofKey_notation :
    (∀ key : String, '[' ∉ key.toList → (ofKey key).dotted = key) ∧
    (∀ path : Path, ofKey path.dotted = path ↔
      path = [] ∨ path ≠ [""] ∧ ∀ s ∈ path, '.' ∉ s.toList ∧ '[' ∉ s.toList) ∧
    (∀ path : Path, 2 ≤ path.length →
      (ofKey path.bracketed = path ↔ ∀ s ∈ path, '[' ∉ s.toList ∧ ']' ∉ s.toList)) := by
  refine ⟨?_, ?_, ?_⟩
  · intro key hkey
    exact dotted_ofKey hkey
  · intro path
    exact ofKey_dotted_iff
  · intro path hlength
    exact ofKey_bracketed_iff hlength

/-- Dotted text may hold a closing bracket, bracketed text a dot, and both may have empty segments
beside others. -/
theorem ofKey_notation_brackets :
    ('[' ∉ "a]..b".toList ∧ (ofKey "a]..b").dotted = "a]..b") ∧
    (ofKey (dotted ["a]", "", "b"]) = ["a]", "", "b"] ∧ ofKey (dotted [""]) ≠ [""]) ∧
    ofKey (bracketed ["a.b", ""]) = ["a.b", ""] ∧ ofKey (bracketed ["a", "b]"]) ≠ ["a", "b]"] := by
  obtain ⟨hkey, hdotted, hbracketed⟩ := ofKey_notation
  refine ⟨⟨by decide, hkey "a]..b" (by decide)⟩, ⟨?_, ?_⟩, ?_, ?_⟩
  · exact (hdotted _).2 (.inr ⟨by decide, by decide⟩)
  · intro h
    rcases (hdotted _).1 h with hnil | ⟨hroot, -⟩
    · cases hnil
    · exact hroot rfl
  · exact (hbracketed _ (by decide)).2 (by decide)
  · intro h
    have hclose := ((hbracketed _ (by decide)).1 h "b]" (by decide)).2
    exact hclose (by decide)

end PathBag.Path
