import PathBag.Proofs.Code.Integers
import PathBag.Proofs.Eval.Chains
import PathBag.Proofs.Eval.Forms

/-!
# References within code

References are replaced before code is read.  So a reference within code is not an operand, as a
path is: the text of its value is put into the code (`evalReferences_code_reference`), and what this
text means is up to the code.  An integer means itself again, unless it is the least one
(`Live.evalText_code_reference`).
-/

namespace PathBag

namespace Marker

/-! ### A reference in a piece of code -/

section Code

variable {before key after : List Char} (hbefore : Plain before) (hne : key ≠ [])
  (hkey : Plain key) (hafter : Plain after)

include hbefore hne hkey hafter

theorem pieces_code_reference :
    Form.reference.pieces (Form.code.write (before ++ Form.reference.write key ++ after)) =
      .plain '{' :: (('%' :: ' ' :: before).map .plain ++
        .marker key :: (after ++ [' ', '%', '}']).map .plain) := by
  have hopen : Form.code.write (before ++ Form.reference.write key ++ after) =
      '{' :: (('%' :: ' ' :: before) ++
        (Form.reference.write key ++ (after ++ [' ', '%', '}']))) := by
    simp [Form.write]
  have hplain : Plain ('%' :: ' ' :: before) := by
    simpa [Plain, isBrace] using hbefore
  -- what comes behind the text in front starts with `$`
  have hbounds : Bounds (Form.reference.write key ++ (after ++ [' ', '%', '}'])) := by
    intro c cs h
    cases h
  have hend : Form.reference.occursIn (after ++ [' ', '%', '}']) = false := by
    have hbrace : '{' ∉ after := fun h => absurd (hafter '{' h) (by decide)
    exact occursIn_of_no_brace .reference (by simp [hbrace])
  rw [hopen, pieces_of_take_eq_none rfl, pieces_plain_append hplain fun _ => hbounds,
    pieces_write_append hne hkey, pieces_of_not_occursIn hend]

/-- A round puts the text of the value in the place of the reference. -/
theorem evalReferences_code_reference {read : Lookup} {v : Value}
    (hv : read.get (String.ofList key) undefined = .ok v) (rounds : Nat) :
    evalReferences read (rounds + 1)
        (Form.code.write (before ++ Form.reference.write key ++ after)) =
      evalReferences read rounds (Form.code.write (before ++ v.render.toList ++ after)) := by
  have hpieces := pieces_code_reference hbefore hne hkey hafter
  generalize Form.code.write (before ++ Form.reference.write key ++ after) = cs at hpieces ⊢
  have hmarker (body : List Char) : Form.reference.pieces cs ≠ [.marker body] := by
    intro h
    cases hpieces.symm.trans h
  have hocc : Form.reference.occursIn cs = true := by
    simp [Form.occursIn, hpieces, Piece.isMarker]
  have hvalue : referenceValue read key = .ok v := hv
  have hround : substitute (referenceValue read) (Form.reference.pieces cs) =
      .ok (Form.code.write (before ++ v.render.toList ++ after)) := by
    rw [hpieces, substitute, substitute_append, substitute_plain, substitute, hvalue,
      substitute_plain]
    exact congrArg Except.ok (by simp [Form.write])
  rw [evalReferences_of_ne_marker read hmarker hocc, hround]
  rfl

end Code

end Marker

/-! ### Integers -/

theorem Decimal.plain_writeInt64 (n : Int64) : Marker.Plain (writeInt64 n).toList := by
  have hdigits : Marker.Plain (writeNat n.toInt.natAbs).toList := (isName_writeNat _).not_brace
  rw [writeInt64, writeInt]
  split
  · rw [String.toList_ofList]
    rw [writeNat, String.toList_ofList] at hdigits
    exact List.forall_mem_cons.2 ⟨by decide, hdigits⟩
  · exact hdigits

theorem Decimal.writeInt64_ne_nil (n : Int64) : (writeInt64 n).toList ≠ [] := by
  rw [writeInt64, writeInt]
  split
  · simp
  · exact (isName_writeNat _).toList_ne_nil

namespace Live

open Marker

section Integer

variable (tree : Value) (levels : Nat) {key : String} {n : Int64} (hkey : IsName key)
  (hchild : tree.child? key = some (.int n))

include hkey hchild

/-- One round puts the integer into the code, and then the code is read. -/
theorem evalText_code_reference_eq :
    evalText tree (levels + 1) (Form.code.text (Form.reference.text key)) =
      Code.parse (Decimal.writeInt64 n) >>= (·.eval (reader tree levels)) := by
  have hread : reader tree levels key = .ok (.int n) := reader_scalar levels hkey hchild rfl rfl
  have hget : (reader tree levels).get (String.ofList key.toList) undefined = .ok (.int n) := by
    rw [String.ofList_toList]
    exact Lookup.getAs_of_ok hread undefined .any
  have hnil : Plain [] := fun _ h => absurd h List.not_mem_nil
  have hround := evalReferences_code_reference hnil hkey.toList_ne_nil hkey.not_brace hnil hget 63
  have hcode := evalReferences_code (reader tree levels) (Decimal.writeInt64_ne_nil n)
    (Decimal.plain_writeInt64 n) 63
  rw [List.nil_append, List.append_nil, List.nil_append, List.append_nil] at hround
  rw [evalText_succ, Marker.eval, roundLimit, Form.text, String.toList_ofList, Form.text,
    String.toList_ofList, hround, Value.render, hcode, String.ofList_toList]

theorem evalText_code_reference_minValue (hn : n = Int64.minValue) :
    ∃ pos, evalText tree (levels + 1) (Form.code.text (Form.reference.text key)) =
      .error (.numberTooGreat (Decimal.writeNat (2 ^ 63)) pos) := by
  subst hn
  obtain ⟨pos, hparse⟩ := Code.parse_writeInt64_minValue
  refine ⟨pos, ?_⟩
  rw [evalText_code_reference_eq tree levels hkey hchild, hparse]
  rfl

/-- **An integer put into code.**  Let a name store a 64-bit integer, and let the text be code that
is a reference to this name and nothing else.  The value of the text is the integer, which is also
what the name reads as, unless the integer is the least one.  The text of this one is a sign and
digits that are too great for an integer. -/
theorem evalText_code_reference :
    reader tree levels key = .ok (.int n) ∧
    (n ≠ Int64.minValue →
      evalText tree (levels + 1) (Form.code.text (Form.reference.text key)) = .ok (.int n)) ∧
    (n = Int64.minValue → ∃ pos,
      evalText tree (levels + 1) (Form.code.text (Form.reference.text key)) =
        .error (.numberTooGreat (Decimal.writeNat (2 ^ 63)) pos)) := by
  refine ⟨reader_scalar levels hkey hchild rfl rfl, fun hn => ?_, fun hn => ?_⟩
  · rw [evalText_code_reference_eq tree levels hkey hchild, Code.eval_writeInt64 _ hn]
  · exact evalText_code_reference_minValue tree levels hkey hchild hn

end Integer

/-- Names that store the least integer and the next one. -/
def least : Value :=
  .mapping [("a", .int (Int64.minValue + 1)), ("b", .int Int64.minValue)]

/-- The next one is an integer in code, and the least one is none. -/
theorem evalText_code_reference_least :
    (IsName "a" ∧ least.child? "a" = some (.int (Int64.minValue + 1)) ∧
      Int64.minValue + 1 ≠ Int64.minValue ∧
      evalString least "\x7b% $\x7ba\x7d %\x7d" = .ok (.int (Int64.minValue + 1))) ∧
    (IsName "b" ∧ least.child? "b" = some (.int Int64.minValue) ∧
      ∃ pos, evalString least "\x7b% $\x7bb\x7d %\x7d" =
        .error (.numberTooGreat (Decimal.writeNat (2 ^ 63)) pos)) := by
  have ha : least.child? "a" = some (.int (Int64.minValue + 1)) := rfl
  have hb : least.child? "b" = some (.int Int64.minValue) := rfl
  have hne : Int64.minValue + 1 ≠ Int64.minValue := by decide
  exact ⟨⟨by decide, ha, hne, (evalText_code_reference least 63 (by decide) ha).2.1 hne⟩,
    by decide, hb, (evalText_code_reference least 63 (by decide) hb).2.2 rfl⟩

/-- Not every integer is itself again in code. -/
theorem evalText_code_reference_ne :
    ∃ (tree : Value) (key : String) (n : Int64), IsName key ∧
      tree.child? key = some (.int n) ∧ reader tree 63 key = .ok (.int n) ∧
      evalString tree (Form.code.text (Form.reference.text key)) ≠ .ok (.int n) := by
  have hb : least.child? "b" = some (.int Int64.minValue) := rfl
  have hname : IsName "b" := by decide
  obtain ⟨pos, hstop⟩ := evalText_code_reference_minValue least 63 hname hb rfl
  refine ⟨least, "b", Int64.minValue, hname, hb, reader_scalar 63 hname hb rfl rfl, fun h => ?_⟩
  cases hstop.symm.trans h

end Live

end PathBag
