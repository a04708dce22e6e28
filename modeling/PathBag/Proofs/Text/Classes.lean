import PathBag.Decimal.Text
import PathBag.Text.Classes

/-!
# Blanks, words and digits

Trimming keeps a part of the text (`isInfix_trim`), and the whole of it when it neither starts nor
ends with a blank (`trimChars_of_ends`).

The characters of words are neither blanks nor marks of the code, and digits go on with a word but
do not start one.  The sets of characters are large but for the blanks and the digits, so these are
gone through one by one (`forall_of_isBlank`, `forall_of_isDigit`).
-/

namespace PathBag

/-! ### Trimmed texts -/

namespace Text

theorem isPrefix_trimEnd (cs : List Char) : trimEnd cs <+: cs := by
  induction cs with
  | nil => exact List.prefix_rfl
  | cons c cs ih =>
    unfold trimEnd
    split
    · split
      · exact List.nil_prefix
      · exact ⟨cs, rfl⟩
    · exact (List.prefix_cons_inj c).2 ih

theorem isInfix_trim (s : String) : (trim s).toList <:+: s.toList := by
  rw [trim, String.toList_ofList, trimChars]
  exact (isPrefix_trimEnd _).isInfix.trans (List.dropWhile_suffix _).isInfix

theorem trimEnd_concat {c : Char} (hc : isBlank c = false) (cs : List Char) :
    trimEnd (cs ++ [c]) = cs ++ [c] := by
  induction cs with
  | nil => simp [trimEnd, hc]
  | cons b cs ih =>
    rw [List.cons_append, trimEnd, ih]
    split
    · next h => simp at h
    · rfl

/-- Characters without blanks at their ends are trimmed. -/
theorem trimChars_of_ends {cs : List Char} (hfirst : ∀ c, cs.head? = some c → isBlank c = false)
    (hlast : ∀ c, cs.getLast? = some c → isBlank c = false) : trimChars cs = cs := by
  have hdrop : cs.dropWhile isBlank = cs := by
    cases cs with
    | nil => rfl
    | cons c cs => exact List.dropWhile_cons_of_neg (by simp [hfirst c rfl])
  rw [trimChars, hdrop]
  rcases List.eq_nil_or_concat cs with rfl | ⟨front, c, rfl⟩
  · rfl
  · rw [List.concat_eq_append] at hlast ⊢
    exact trimEnd_concat (hlast c List.getLast?_concat) front

section Bounds

variable {b c : Char} (hb : isBlank b = false) (hc : isBlank c = false) (cs : List Char)

include hb hc

theorem trimChars_of_bounds : trimChars (b :: (cs ++ [c])) = b :: (cs ++ [c]) := by
  refine trimChars_of_ends ?_ fun d hd => ?_
  · rintro _ ⟨⟩
    exact hb
  · rw [← List.cons_append, List.getLast?_concat] at hd
    cases hd
    exact hc

/-- A text without blanks at its ends is trimmed. -/
theorem trim_of_bounds : trim (String.ofList (b :: (cs ++ [c]))) = String.ofList (b :: (cs ++ [c])) := by
  rw [trim, String.toList_ofList, trimChars_of_bounds hb hc]

end Bounds

theorem trim_of_no_blank {s : String} (h : ∀ c ∈ s.toList, isBlank c = false) : trim s = s := by
  rw [trim, trimChars_of_ends, String.ofList_toList]
  · exact fun c hc => h c (List.mem_of_head? hc)
  · exact fun c hc => h c (List.mem_of_getLast? hc)

/-! ### Words and digits -/

/-- The numbers between the first two boundaries, those between the next two, and so on. -/
def members : List Nat → List Nat
  | lo :: hi :: rest => List.range' lo (hi - lo) ++ members rest
  | _ => []

theorem mem_members_of_inRanges {bounds : List Nat} {n : Nat} (h : inRanges bounds n = true) :
    n ∈ members bounds := by
  fun_induction members bounds with
  | case1 lo hi rest ih =>
    unfold inRanges at h
    split at h
    · cases h
    · next hlo =>
      rcases Bool.or_eq_true_iff.1 h with hhi | hrest
      · have hn : n < hi := of_decide_eq_true hhi
        exact List.mem_append_left _ (List.mem_range'_1.2 (by omega))
      · exact List.mem_append_right _ (ih hrest)
  | case2 bounds hbounds =>
    unfold inRanges at h
    split at h
    · exact absurd rfl (hbounds _ _ _)
    · cases h

theorem forall_of_isBlank {c : Char} (hc : isBlank c = true) (p : Char → Prop)
    (h : ∀ n ∈ members blankBounds, p (Char.ofNat n)) : p c :=
  Char.ofNat_toNat c ▸ h _ (mem_members_of_inRanges hc)

end Text

theorem Decimal.forall_of_isDigit {c : Char} (hc : isDigit c = true) (p : Char → Prop)
    (h : ∀ n ∈ List.range' 48 10, p (Char.ofNat n)) : p c := by
  have hbounds : 48 ≤ c.toNat ∧ c.toNat ≤ 57 := by
    simpa [isDigit, Char.le_def, UInt32.le_iff_toNat_le] using hc
  exact Char.ofNat_toNat c ▸ h _ (List.mem_range'_1.2 (by omega))

namespace Text

variable {c : Char}

theorem isWordPart_of_isWordStart (h : isWordStart c = true) : isWordPart c = true := by
  simp only [isWordStart, isWordPart, Bool.or_eq_true] at h ⊢
  rcases h with h | h
  · exact .inl (.inl h)
  · exact .inr h

theorem isWordPart_of_isDigit (h : Decimal.isDigit c = true) : isWordPart c = true :=
  Decimal.forall_of_isDigit h (isWordPart · = true) (by decide)

theorem isBlank_of_isWordPart (h : isWordPart c = true) : isBlank c = false := by
  refine Bool.eq_false_iff.2 fun hblank => ?_
  have hpart : isWordPart c = false :=
    forall_of_isBlank hblank (isWordPart · = false) (by decide +kernel)
  rw [h] at hpart
  cases hpart

theorem isDigit_of_isWordStart (h : isWordStart c = true) : Decimal.isDigit c = false := by
  refine Bool.eq_false_iff.2 fun hdigit => ?_
  have hstart : isWordStart c = false :=
    Decimal.forall_of_isDigit hdigit (isWordStart · = false) (by decide)
  rw [h] at hstart
  cases hstart

/-- A letter or `_`, and then letters, numerals and `_`. -/
def isWord : List Char → Bool
  | [] => false
  | c :: cs => isWordStart c && cs.all isWordPart

theorem exists_of_isWord {cs : List Char} (h : isWord cs = true) :
    ∃ c rest, cs = c :: rest ∧ isWordStart c = true ∧ ∀ d ∈ rest, isWordPart d = true := by
  cases cs with
  | nil => cases h
  | cons c rest =>
    obtain ⟨hc, hrest⟩ := Bool.and_eq_true_iff.1 h
    exact ⟨c, rest, rfl, hc, List.all_eq_true.1 hrest⟩

theorem isWordPart_of_mem {cs : List Char} (h : isWord cs = true) : ∀ c ∈ cs, isWordPart c = true := by
  obtain ⟨c, rest, rfl, hc, hrest⟩ := exists_of_isWord h
  exact List.forall_mem_cons.2 ⟨isWordPart_of_isWordStart hc, hrest⟩

theorem notMem_of_isWord {cs : List Char} (h : isWord cs = true) {c : Char}
    (hc : isWordPart c = false) : c ∉ cs := by
  intro hmem
  rw [isWordPart_of_mem h c hmem] at hc
  cases hc

end Text

end PathBag
