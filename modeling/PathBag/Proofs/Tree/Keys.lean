import PathBag.Path

/-!
# Keys

The path of a key: a key without structure is its own segment (`ofKey_of_plain`), and a segment
behind one more dot is one more segment (`ofKey_dot`).  The segments of a key never hold what the
key was cut at (`dotted_segments`, `bracketed_segments`).
-/

namespace PathBag

/-- Cutting at a character is the library's splitting of lists. -/
theorem splitAt_eq_splitOn (sep : Char) (cs : List Char) : splitAt sep cs = cs.splitOn sep := by
  induction cs with
  | nil => rfl
  | cons c cs ih =>
    obtain ⟨part, parts, hparts⟩ := List.exists_cons_of_ne_nil (List.splitOn_ne_nil sep cs)
    rw [splitAt, ih, List.splitOn_cons_eq_if_modifyHead, hparts]
    by_cases hc : c = sep <;> simp [hc]

theorem splitAt_ne_nil (sep : Char) (cs : List Char) : splitAt sep cs ≠ [] := by
  rw [splitAt_eq_splitOn]
  exact List.splitOn_ne_nil sep cs

theorem splitAt_of_notMem {sep : Char} {cs : List Char} (h : sep ∉ cs) : splitAt sep cs = [cs] := by
  rw [splitAt_eq_splitOn]
  exact List.splitOn_eq_singleton h

theorem splitAt_append_cons (sep : Char) (cs ds : List Char) :
    splitAt sep (cs ++ sep :: ds) = splitAt sep cs ++ splitAt sep ds := by
  simp only [splitAt_eq_splitOn, List.splitOn_append_cons_self]

theorem intercalate_splitAt (sep : Char) (cs : List Char) :
    [sep].intercalate (splitAt sep cs) = cs := by
  rw [splitAt_eq_splitOn]
  exact List.intercalate_splitOn sep

theorem splitAt_intercalate {sep : Char} {parts : List (List Char)} (hne : parts ≠ [])
    (hparts : ∀ part ∈ parts, sep ∉ part) : splitAt sep ([sep].intercalate parts) = parts := by
  rw [splitAt_eq_splitOn]
  exact List.splitOn_intercalate sep hparts hne

/-- A part holds characters of the text, but not the one at which the text is cut. -/
theorem mem_of_mem_splitAt {sep c : Char} {cs part : List Char} (hpart : part ∈ splitAt sep cs)
    (hc : c ∈ part) : c ∈ cs ∧ c ≠ sep := by
  induction cs generalizing part with
  | nil =>
    obtain rfl := List.mem_singleton.1 hpart
    cases hc
  | cons d cs ih =>
    obtain ⟨first, parts, hparts⟩ := List.exists_cons_of_ne_nil (splitAt_ne_nil sep cs)
    rw [hparts] at ih
    by_cases hd : d = sep
    · rw [splitAt, if_pos hd, hparts] at hpart
      rcases List.mem_cons.1 hpart with rfl | hpart
      · cases hc
      · exact (ih hpart hc).imp_left (List.mem_cons_of_mem d)
    · rw [splitAt, if_neg hd, hparts] at hpart
      rcases List.mem_cons.1 hpart with rfl | hpart
      · -- `d` goes to the first part of what follows it
        rcases List.mem_cons.1 hc with rfl | hc
        · exact ⟨List.mem_cons_self, hd⟩
        · exact (ih List.mem_cons_self hc).imp_left (List.mem_cons_of_mem d)
      · exact (ih (List.mem_cons_of_mem _ hpart) hc).imp_left (List.mem_cons_of_mem d)

theorem intercalate_cons (sep : Char) (part : List Char) (parts : List (List Char)) :
    [sep].intercalate (part :: parts) = part ++ parts.flatMap (sep :: ·) := by
  induction parts generalizing part with
  | nil => simp
  | cons next parts ih => simp [ih]

namespace Path

theorem ofKey_of_dotted {key : String} (hne : key ≠ "") (hkey : '[' ∉ key.toList) :
    ofKey key = (splitAt '.' key.toList).map String.ofList := by
  have hempty : key.toList.isEmpty = false := by
    rw [List.isEmpty_eq_false_iff]
    exact mt String.toList_eq_nil_iff.1 hne
  simp only [ofKey, hempty, hkey, if_false, Bool.false_eq_true]

theorem ofKey_ne_nil {key : String} (hne : key ≠ "") (hkey : '[' ∉ key.toList) :
    ofKey key ≠ [] := by
  rw [ofKey_of_dotted hne hkey]
  exact mt List.map_eq_nil_iff.1 (splitAt_ne_nil _ _)

/-- A key without dots and brackets is the one segment of its path. -/
theorem ofKey_of_plain {key : String} (hne : key ≠ "") (hdot : '.' ∉ key.toList)
    (hkey : '[' ∉ key.toList) : ofKey key = [key] := by
  rw [ofKey_of_dotted hne hkey, splitAt_of_notMem hdot, List.map_singleton, String.ofList_toList]

theorem ofKey_of_bracketed {key : String} (h : '[' ∈ key.toList) :
    ofKey key = (splitAt '[' (key.toList.filter (· ≠ ']'))).map String.ofList := by
  have hempty : key.toList.isEmpty = false := by
    rw [List.isEmpty_eq_false_iff]
    exact List.ne_nil_of_mem h
  simp only [ofKey, hempty, h, if_true, if_false, Bool.false_eq_true]

theorem dotted_segments {key s : String} (hkey : '[' ∉ key.toList) (hs : s ∈ ofKey key) :
    '.' ∉ s.toList ∧ '[' ∉ s.toList := by
  have hne : key ≠ "" := by
    rintro rfl
    cases hs
  rw [ofKey_of_dotted hne hkey] at hs
  obtain ⟨part, hpart, rfl⟩ := List.mem_map.1 hs
  rw [String.toList_ofList]
  constructor
  · intro hdot
    exact (mem_of_mem_splitAt hpart hdot).2 rfl
  · intro hopen
    exact hkey (mem_of_mem_splitAt hpart hopen).1

theorem bracketed_segments {key s : String} (hkey : '[' ∈ key.toList) (hs : s ∈ ofKey key) :
    '[' ∉ s.toList ∧ ']' ∉ s.toList := by
  rw [ofKey_of_bracketed hkey] at hs
  obtain ⟨part, hpart, rfl⟩ := List.mem_map.1 hs
  rw [String.toList_ofList]
  constructor
  · intro hopen
    exact (mem_of_mem_splitAt hpart hopen).2 rfl
  · intro hclose
    have hmem := (mem_of_mem_splitAt hpart hclose).1
    simp at hmem

/-- No segment of any key holds an opening bracket. -/
theorem open_notMem_of_mem_ofKey {key s : String} (hs : s ∈ ofKey key) : '[' ∉ s.toList := by
  by_cases hkey : '[' ∈ key.toList
  · exact (bracketed_segments hkey hs).1
  · exact (dotted_segments hkey hs).2

/-- The names that are keys of themselves. -/
theorem ofKey_eq_singleton_iff {key : String} :
    ofKey key = [key] ↔ key ≠ "" ∧ '.' ∉ key.toList ∧ '[' ∉ key.toList := by
  constructor
  · intro h
    have hne : key ≠ "" := by
      rintro rfl
      cases h
    have hmem : key ∈ ofKey key := by
      rw [h]
      exact List.mem_singleton_self key
    have hopen := open_notMem_of_mem_ofKey hmem
    exact ⟨hne, (dotted_segments hopen hmem).1, hopen⟩
  · rintro ⟨hne, hdot, hopen⟩
    exact ofKey_of_plain hne hdot hopen

/-- A segment behind a dotted key is the last segment of its path. -/
theorem ofKey_dot {key segment : String} (hne : key ≠ "") (hkey : '[' ∉ key.toList)
    (hdot : '.' ∉ segment.toList) (hsegment : '[' ∉ segment.toList) :
    ofKey (key ++ "." ++ segment) = ofKey key ++ [segment] := by
  have hcs : (key ++ "." ++ segment).toList = key.toList ++ '.' :: segment.toList := by simp
  have hne' : key ++ "." ++ segment ≠ "" := by
    intro h
    rw [← String.toList_eq_nil_iff, hcs] at h
    simp at h
  have hbracket : '[' ∉ (key ++ "." ++ segment).toList := by
    rw [hcs]
    simp [hkey, hsegment]
  rw [ofKey_of_dotted hne' hbracket, ofKey_of_dotted hne hkey, hcs, splitAt_append_cons,
    splitAt_of_notMem hdot, List.map_append, List.map_singleton, String.ofList_toList]

end Path

end PathBag
