import PathBag.Marker.Eval
import PathBag.Proofs.Marker.Pieces

/-!
# The values of texts

What evaluation does with a text that is not one marker alone: it replaces the markers, or leaves
the text as it is.  A text without markers is its own value (`eval_of_not_isExpression`), and a text
that is one reference has the value of its key (`eval_referenceText`).
-/

namespace PathBag.Marker

/-! ### Replacing markers -/

theorem substitute_plain (f : List Char → Except Fault Value) (cs : List Char) :
    substitute f (cs.map Piece.plain) = .ok cs := by
  induction cs with
  | nil => rfl
  | cons c cs ih =>
    rw [List.map_cons, substitute, ih]
    rfl

/-- Pieces are replaced from left to right, so the first fault is that of the leftmost marker. -/
theorem substitute_append (f : List Char → Except Fault Value) (ps qs : List Piece) :
    substitute f (ps ++ qs) =
      substitute f ps >>= fun cs => (substitute f qs).map (cs ++ ·) := by
  induction ps with
  | nil =>
    show substitute f qs = (substitute f qs).map ([] ++ ·)
    cases substitute f qs <;> rfl
  | cons p ps ih =>
    cases p with
    | plain c =>
      rw [List.cons_append, substitute, ih, substitute]
      cases substitute f ps with
      | error fault => rfl
      | ok cs => cases substitute f qs <;> rfl
    | marker body =>
      rw [List.cons_append, substitute, ih, substitute]
      cases f body with
      | error fault => rfl
      | ok v =>
        cases substitute f ps with
        | error fault => rfl
        | ok cs =>
          cases substitute f qs with
          | error fault => rfl
          | ok ds => exact congrArg Except.ok (List.append_assoc _ _ _).symm

/-! ### Texts that are not one marker -/

section Forms

variable (read : Lookup) {cs : List Char}

theorem evalCode_of_ne_marker (h : ∀ body, Form.code.pieces cs ≠ [.marker body]) :
    evalCode read cs = .ok (.string (String.ofList cs)) := by
  unfold evalCode
  split
  · next body heq => exact absurd heq (h body)
  · rfl

theorem evalPlaceholders_of_ne_marker (h : ∀ body, Form.placeholder.pieces cs ≠ [.marker body]) :
    evalPlaceholders read cs =
      substitute (placeholderValue read) (Form.placeholder.pieces cs) >>= evalCode read := by
  unfold evalPlaceholders
  split
  · next body heq => exact absurd heq (h body)
  · rfl

theorem evalReferences_of_ne_marker (h : ∀ body, Form.reference.pieces cs ≠ [.marker body])
    (hocc : Form.reference.occursIn cs = true) (rounds : Nat) :
    evalReferences read (rounds + 1) cs =
      substitute (referenceValue read) (Form.reference.pieces cs) >>= evalReferences read rounds := by
  have hany : (Form.reference.pieces cs).any Piece.isMarker = true := hocc
  rw [evalReferences]
  split
  · next body heq => exact absurd heq (h body)
  · rw [if_pos hany]

/-! ### Texts without markers -/

/-- Without markers of a form, no text is one marker of that form. -/
theorem pieces_ne_marker {form : Form} (h : form.occursIn cs = false) (body : List Char) :
    form.pieces cs ≠ [.marker body] := by
  intro heq
  rw [Form.occursIn, heq] at h
  simp [Piece.isMarker] at h

theorem evalCode_of_not_occursIn (h : Form.code.occursIn cs = false) :
    evalCode read cs = .ok (.string (String.ofList cs)) :=
  evalCode_of_ne_marker read (pieces_ne_marker h)

theorem evalPlaceholders_of_not_occursIn (h : Form.placeholder.occursIn cs = false) :
    evalPlaceholders read cs = evalCode read cs := by
  rw [evalPlaceholders_of_ne_marker read (pieces_ne_marker h), pieces_of_not_occursIn h,
    substitute_plain]
  rfl

theorem evalReferences_of_not_occursIn (h : Form.reference.occursIn cs = false)
    (rounds : Nat) : evalReferences read rounds cs = evalPlaceholders read cs := by
  have hany : (Form.reference.pieces cs).any Piece.isMarker = false := h
  unfold evalReferences
  split
  · next body heq => exact absurd heq (pieces_ne_marker h body)
  · rw [if_neg (by simp [hany])]

/-- However many rounds are left, a text without opening braces is its own value. -/
theorem evalReferences_of_no_brace (h : '{' ∉ cs) (rounds : Nat) :
    evalReferences read rounds cs = .ok (.string (String.ofList cs)) := by
  rw [evalReferences_of_not_occursIn read (occursIn_of_no_brace .reference h),
    evalPlaceholders_of_not_occursIn read (occursIn_of_no_brace .placeholder h),
    evalCode_of_not_occursIn read (occursIn_of_no_brace .code h)]

end Forms

variable (read : Lookup)

/-- A text without markers is its own value. -/
theorem eval_of_not_isExpression {text : String} (h : isExpression text = false) :
    eval read text = .ok (.string text) := by
  rw [isExpression_eq_false_iff] at h
  rw [eval, evalReferences_of_not_occursIn read (h .reference),
    evalPlaceholders_of_not_occursIn read (h .placeholder), evalCode_of_not_occursIn read (h .code),
    String.ofList_toList]

/-- A text that is one reference has the value of its key. -/
theorem eval_referenceText {key : List Char} (hne : key ≠ [])
    (hkey : ∀ c ∈ key, isBrace c = false) :
    eval read (referenceText key) = read.get (String.ofList key) undefined := by
  rw [eval, evalReferences, pieces_reference hne hkey]
  rfl

end PathBag.Marker
