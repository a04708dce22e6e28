import PathBag.Marker.Eval
import PathBag.Proofs.Marker.Pieces
import PathBag.Proofs.Text.Classes

/-!
# Defaults of placeholders

The body of a placeholder is cut at the last `|default(` (`cutLast_append`), whatever stands before
it, so the key takes in all the earlier ones (`splitDefault_withDefault`).  A text in quotes is a
literal for this text, whatever it looks like without them (`literal_quoted`).
-/

namespace PathBag.Marker

/-! ### The last occurrence of a word -/

section Cut

variable {w : Char} {word : List Char}

theorem cutLast_eq_none_iff {cs : List Char} :
    cutLast (w :: word) cs = none ↔ ¬ (w :: word) <:+: cs := by
  induction cs with
  | nil => simp [cutLast]
  | cons c cs ih =>
    rw [List.infix_cons_iff, not_or, ← ih, ← List.isPrefixOf_iff_prefix]
    cases hcut : cutLast (w :: word) cs with
    | some parts => simp [cutLast, hcut]
    | none => simp [cutLast, hcut]

/-- No occurrence of a word starts in text without the first character of the word. -/
theorem infix_append_iff {front rest : List Char} (hfront : w ∉ front) :
    (w :: word) <:+: front ++ rest ↔ (w :: word) <:+: rest := by
  induction front with
  | nil => rfl
  | cons c front ih =>
    obtain ⟨hc, hfront⟩ := not_or.1 (mt List.mem_cons.2 hfront)
    rw [List.cons_append, List.infix_cons_iff, List.cons_prefix_cons, ih hfront]
    simp [hc]

theorem infix_concat_iff {q : Char} (hq : q ∉ w :: word) {cs : List Char} :
    (w :: word) <:+: cs ++ [q] ↔ (w :: word) <:+: cs := by
  rw [List.infix_concat_iff, List.suffix_concat_iff]
  refine ⟨?_, .inr⟩
  rintro ((hnil | ⟨t, ht, -⟩) | h)
  · cases hnil
  · exact absurd (ht ▸ List.mem_append_right t List.mem_cons_self) hq
  · exact h

/-- A text is cut at the last occurrence of a word. -/
theorem cutLast_append (hw : w ∉ word) {after : List Char} (hafter : ¬ (w :: word) <:+: after)
    (before : List Char) :
    cutLast (w :: word) (before ++ (w :: word) ++ after) = some (before, after) := by
  induction before with
  | nil =>
    have hnone : cutLast (w :: word) (word ++ after) = none :=
      cutLast_eq_none_iff.2 (mt (infix_append_iff hw).1 hafter)
    have hprefix : (w :: word).isPrefixOf (w :: (word ++ after)) = true :=
      List.isPrefixOf_iff_prefix.2 ⟨after, rfl⟩
    simp only [List.nil_append, List.cons_append, cutLast, hnone, hprefix, if_true]
    simp
  | cons c before ih => simp only [List.cons_append, cutLast, ih]

/-- A text with a word in it has a last occurrence of the word. -/
theorem exists_last_of_infix {cs : List Char} (h : (w :: word) <:+: cs) :
    ∃ before after, cs = before ++ (w :: word) ++ after ∧ ¬ (w :: word) <:+: after := by
  induction cs with
  | nil => cases List.infix_nil.1 h
  | cons c cs ih =>
    by_cases hlater : (w :: word) <:+: cs
    · obtain ⟨before, after, rfl, hlast⟩ := ih hlater
      exact ⟨c :: before, after, rfl, hlast⟩
    · obtain ⟨after, hfirst⟩ := (List.infix_cons_iff.1 h).resolve_right hlater
      rw [List.cons_append] at hfirst
      obtain ⟨rfl, rfl⟩ := List.cons.inj hfirst
      have hsuffix : after <:+: word ++ after := (List.suffix_append word after).isInfix
      exact ⟨[], after, rfl, fun hin => hlater (hin.trans hsuffix)⟩

end Cut

/-! ### Keys with defaults -/

/-- What stands between the key and the default. -/
def defaultWord : List Char := "|default(".toList

/-- The body of a placeholder: a key and the text of a default. -/
def withDefault (key raw : List Char) : List Char := key ++ defaultWord ++ raw ++ [')']

/-- The default reaches from the last word for it to the end. -/
theorem splitDefault_withDefault {key raw : List Char} (hne : key ≠ [])
    (hraw : ¬ defaultWord <:+: raw) : splitDefault (withDefault key raw) = some (key, raw) := by
  obtain ⟨c, cs, rfl⟩ := List.exists_cons_of_ne_nil hne
  have hcut : cutLast defaultWord (cs ++ defaultWord ++ raw) = some (cs, raw) :=
    cutLast_append (by decide) hraw cs
  have hbody : withDefault (c :: cs) raw = c :: ((cs ++ defaultWord ++ raw) ++ [')']) := by
    simp [withDefault]
  rw [hbody, splitDefault, if_pos List.getLast?_concat, List.dropLast_concat]
  exact congrArg (Option.map _) hcut

theorem splitDefault_of_no_bar {body : List Char} (h : '|' ∉ body) : splitDefault body = none := by
  cases body with
  | nil => rfl
  | cons c cs =>
    have hword : ¬ defaultWord <:+: cs.dropLast := fun hin =>
      h (List.mem_cons_of_mem c (List.dropLast_subset cs (hin.subset List.mem_cons_self)))
    have hcut : cutLast "|default(".toList cs.dropLast = none := cutLast_eq_none_iff.2 hword
    simp only [splitDefault, hcut, Option.map_none, ite_self]

section Value

variable (read : Lookup)

theorem placeholderValue_of_no_bar {body : List Char} (h : '|' ∉ body) :
    placeholderValue read body = read.get (String.ofList body) undefined := by
  rw [placeholderValue, splitDefault_of_no_bar h]

theorem placeholderValue_withDefault {key raw : List Char} (hne : key ≠ [])
    (hraw : ¬ defaultWord <:+: raw) :
    placeholderValue read (withDefault key raw) = read.get (String.ofList key) (literal raw) := by
  rw [placeholderValue, splitDefault_withDefault hne hraw]

end Value

/-! ### Literals in quotes -/

/-- A text in quotes. -/
def quoted (q : Char) (cs : List Char) : List Char := q :: (cs ++ [q])

/-- A quote. -/
def IsQuote (q : Char) : Prop := q = '"' ∨ q = '\''

section Quoted

variable {q : Char} (hq : IsQuote q) (cs : List Char)

include hq

theorem unquote?_quoted :
    (unquote? '"' (quoted q cs)).or (unquote? '\'' (quoted q cs)) = some cs := by
  rcases hq with rfl | rfl
  · simp [quoted, unquote?]
  · simp [quoted, unquote?]

/-- **What stands in quotes is text**, and not a keyword or a number. -/
theorem literal_quoted : literal (quoted q cs) = .string (String.ofList cs) := by
  have htrim : Text.trimChars (quoted q cs) = quoted q cs := by
    have hblank : Text.isBlank q = false := by rcases hq with rfl | rfl <;> decide
    exact Text.trimChars_of_bounds hblank hblank cs
  have hint : Decimal.readInt64 (quoted q cs) = none := by
    rcases hq with rfl | rfl <;> rfl
  have hchars : (quoted q cs).all Decimal.isDecimalChar = false := by
    rcases hq with rfl | rfl <;> rfl
  have hkeyword : quoted q cs ≠ "true".toList ∧ quoted q cs ≠ "false".toList ∧
      quoted q cs ≠ "null".toList := by
    rcases hq with rfl | rfl <;> simp [quoted]
  obtain ⟨htrue, hfalse, hnull⟩ := hkeyword
  simp only [literal, htrim, htrue, hfalse, hnull, hint, hchars, if_false, unquote?_quoted hq cs]
  rfl

end Quoted

end PathBag.Marker
