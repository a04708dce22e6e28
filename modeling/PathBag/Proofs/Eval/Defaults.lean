import PathBag.Proofs.Eval.Forms

/-!
# Defaults in quotes

A placeholder with a default in quotes reads its key, and if that is a miss its value is the text in
the quotes (`Live.evalText_literal_default`).  The text may hold quotes and brackets, look like a
keyword or a number, or be empty.  The one thing it must not hold is the word for a default: the
body is cut at the last of these, and quotes do not hide it.
-/

namespace PathBag

namespace Marker

/-- The text of a placeholder for a key with a default in quotes. -/
def quotedDefault (key : String) (q : Char) (s : String) : String :=
  String.ofList (Form.placeholder.write (withDefault key.toList (quoted q s.toList)))

section

variable {key raw : List Char}

theorem withDefault_ne_nil (h : key ≠ []) : withDefault key raw ≠ [] := by
  simp [withDefault, h]

theorem plain_withDefault (hkey : Plain key) (hraw : Plain raw) : Plain (withDefault key raw) := by
  have hword : Plain defaultWord := by decide
  have hclose : Plain [')'] := by decide
  exact List.forall_mem_append.2
    ⟨List.forall_mem_append.2 ⟨List.forall_mem_append.2 ⟨hkey, hword⟩, hraw⟩, hclose⟩

end

/-- The default in quotes around a word for a default goes on from the last of them, and the key
takes in what comes before. -/
theorem withDefault_quoted_append (key : List Char) (q : Char) (before after : List Char) :
    withDefault key (quoted q (before ++ defaultWord ++ after)) =
      withDefault (key ++ defaultWord ++ q :: before) (after ++ [q]) := by
  simp [withDefault, quoted]

theorem defaultWord_infix_quoted_iff {q : Char} (hq : IsQuote q) {cs : List Char} :
    defaultWord <:+: quoted q cs ↔ defaultWord <:+: cs := by
  have hword : q ∉ defaultWord := by rcases hq with rfl | rfl <;> decide
  have hfront : '|' ∉ [q] := by rcases hq with rfl | rfl <;> decide
  calc defaultWord <:+: quoted q cs
    _ ↔ defaultWord <:+: cs ++ [q] := infix_append_iff hfront
    _ ↔ defaultWord <:+: cs := infix_concat_iff hword

end Marker

namespace Live

open Marker

section Default

variable (tree : Value) (levels : Nat) {key s : String} {q : Char} (hq : IsQuote q)
  (hne : key ≠ "") (hkey : Plain key.toList) (hs : Plain s.toList)

include hq hne hkey hs

theorem evalText_quotedDefault :
    evalText tree (levels + 1) (quotedDefault key q s) =
      placeholderValue (reader tree levels) (withDefault key.toList (quoted q s.toList)) := by
  have hquote : isBrace q = false := by rcases hq with rfl | rfl <;> decide
  have hquoted : Plain (quoted q s.toList) := by
    have hend : Plain [q] := List.forall_mem_singleton.2 hquote
    exact List.forall_mem_cons.2 ⟨hquote, List.forall_mem_append.2 ⟨hs, hend⟩⟩
  have hbody : Plain (withDefault key.toList (quoted q s.toList)) := plain_withDefault hkey hquoted
  rw [evalText_succ, Marker.eval, quotedDefault, String.toList_ofList,
    evalReferences_placeholder _ (withDefault_ne_nil (mt String.toList_eq_nil_iff.1 hne)) hbody]

theorem evalText_quotedDefault_of_inner {before after : List Char}
    (hcut : s.toList = before ++ defaultWord ++ after) (hlast : ¬ defaultWord <:+: after) :
    evalText tree (levels + 1) (quotedDefault key q s) =
      (reader tree levels).get (String.ofList (key.toList ++ defaultWord ++ q :: before))
        (literal (after ++ [q])) := by
  have hword : q ∉ defaultWord := by rcases hq with rfl | rfl <;> decide
  rw [evalText_quotedDefault tree levels hq hne hkey hs, hcut, withDefault_quoted_append,
    placeholderValue_withDefault _ (by simp) (mt (infix_concat_iff hword).1 hlast)]

theorem evalText_quotedDefault_of_not_infix (hout : ¬ defaultWord <:+: s.toList) :
    evalText tree (levels + 1) (quotedDefault key q s) =
      (reader tree levels).get key (.string s) := by
  rw [evalText_quotedDefault tree levels hq hne hkey hs,
    placeholderValue_withDefault _ (mt String.toList_eq_nil_iff.1 hne)
      (mt (defaultWord_infix_quoted_iff hq).1 hout),
    literal_quoted hq, String.ofList_toList, String.ofList_toList]

/-- **A default in quotes is taken literally**, whatever it holds but the word for a default: if the
key is a miss, the text in the quotes is the value.  If the text holds this word, the body is cut at
the last one in it.  The key takes in what comes before, and the default is what comes after, with
one quote. -/
theorem evalText_literal_default :
    (¬ defaultWord <:+: s.toList →
      evalText tree (levels + 1) (quotedDefault key q s) =
        (reader tree levels).get key (.string s) ∧
      ∀ fault : Fault, reader tree levels key = .error fault → fault.isMiss = true →
        evalText tree (levels + 1) (quotedDefault key q s) = .ok (.string s)) ∧
    (defaultWord <:+: s.toList → ∃ before after,
      s.toList = before ++ defaultWord ++ after ∧ ¬ defaultWord <:+: after ∧
      evalText tree (levels + 1) (quotedDefault key q s) =
        (reader tree levels).get (String.ofList (key.toList ++ defaultWord ++ q :: before))
          (literal (after ++ [q]))) := by
  refine ⟨fun hout => ?_, fun hin => ?_⟩
  · have hget := evalText_quotedDefault_of_not_infix tree levels hq hne hkey hs hout
    refine ⟨hget, fun fault hmiss hfault => ?_⟩
    have hfallback := Lookup.getAs_of_error hmiss (.string s) .any
    rw [if_pos hfault] at hfallback
    exact hget.trans hfallback
  · obtain ⟨before, after, hcut, hlast⟩ := exists_last_of_infix hin
    exact ⟨before, after, hcut, hlast,
      evalText_quotedDefault_of_inner tree levels hq hne hkey hs hcut hlast⟩

end Default

/-- A text that could be cut short at many places, and one that is. -/
theorem evalText_literal_default_odd :
    (IsQuote '"' ∧ "k" ≠ "" ∧ Plain "k".toList ∧ Plain "1\") |default)".toList ∧
      ¬ defaultWord <:+: "1\") |default)".toList ∧
      reader .empty 63 "k" = .error (.noValue "k" "k") ∧
      evalString .empty "\x7b\x7b k|default(\"1\") |default)\") \x7d\x7d" =
        .ok (.string "1\") |default)")) ∧
    (Plain "a|default(b".toList ∧ defaultWord <:+: "a|default(b".toList ∧ ∃ before after,
      "a|default(b".toList = before ++ defaultWord ++ after ∧
      evalString .empty "\x7b\x7b k|default(\"a|default(b\") \x7d\x7d" =
        (reader .empty 63).get (String.ofList ("k".toList ++ defaultWord ++ '"' :: before))
          (literal (after ++ ['"']))) := by
  have hq : IsQuote '"' := .inl rfl
  have hne : "k" ≠ "" := by decide
  have hkey : Plain "k".toList := by decide
  have hodd : Plain "1\") |default)".toList := by decide
  have hout : ¬ defaultWord <:+: "1\") |default)".toList := cutLast_eq_none_iff.1 rfl
  have hmiss : reader .empty 63 "k" = .error (.noValue "k" "k") := rfl
  have hinner : Plain "a|default(b".toList := by decide
  have hin : defaultWord <:+: "a|default(b".toList := ⟨['a'], ['b'], rfl⟩
  have heval := (evalText_literal_default .empty 63 hq hne hkey hodd).1 hout
  obtain ⟨before, after, hcut, -, hinside⟩ :=
    (evalText_literal_default .empty 63 hq hne hkey hinner).2 hin
  exact ⟨⟨hq, hne, hkey, hodd, hout, hmiss, heval.2 _ hmiss rfl⟩,
    hinner, hin, before, after, hcut, hinside⟩

/-- A default that holds the word for a default is not taken literally. -/
theorem evalText_literal_default_inner :
    ∃ (tree : Value) (key s : String) (q : Char) (fault : Fault), IsQuote q ∧ key ≠ "" ∧
      Plain key.toList ∧ Plain s.toList ∧ reader tree 63 key = .error fault ∧
      fault.isMiss = true ∧ evalString tree (quotedDefault key q s) ≠ .ok (.string s) := by
  have hq : IsQuote '"' := .inl rfl
  have hne : "k" ≠ "" := by decide
  have hkey : Plain "k".toList := by decide
  have hs : Plain "a|default(b".toList := by decide
  have hlast : ¬ defaultWord <:+: ['b'] := cutLast_eq_none_iff.1 rfl
  have hcut : "a|default(b".toList = ['a'] ++ defaultWord ++ ['b'] := rfl
  have heval := evalText_quotedDefault_of_inner .empty 63 hq hne hkey hs hcut hlast
  have hmiss : (reader .empty 63).get "k|default(\"a" (literal ['b', '"']) = .ok (.string "b\"") :=
    rfl
  refine ⟨.empty, "k", "a|default(b", '"', .noValue "k" "k", hq, hne, hkey, hs, rfl, rfl, fun h => ?_⟩
  have htext := Except.ok.inj ((heval.trans hmiss).symm.trans h)
  exact absurd (Value.string.inj htext) (by decide)

end Live

end PathBag
