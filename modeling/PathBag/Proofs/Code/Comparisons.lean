import PathBag.Code.Eval
import PathBag.Proofs.Decimal.Floats
import PathBag.Proofs.Eval.Outcome

/-!
# Comparisons of integers

Equality and order take the float nearest to each integer.  What they answer is the relation between
the two floats; it is that of the integers themselves unless two of them share a float.
-/

namespace PathBag.Code

open Decimal

/-- The relation of integers that a comparison is written for. -/
def BinaryOp.relation? : BinaryOp → Option (Int → Int → Bool)
  | .eq => some fun a b => decide (a = b)
  | .notEq => some fun a b => decide (a ≠ b)
  | .lt => some fun a b => decide (a < b)
  | .le => some fun a b => decide (a ≤ b)
  | .gt => some fun a b => decide (b < a)
  | .ge => some fun a b => decide (b ≤ a)
  | _ => none

variable {op : BinaryOp} {rel : Int → Int → Bool}

/-- A comparison needs both its operands. -/
theorem decided?_of_relation (h : op.relation? = some rel) (v : Value) : op.decided? v = none := by
  cases op <;> first | rfl | cases h

/-- Every comparison asks for the order of its operands only. -/
theorem relation_congr (h : op.relation? = some rel) {a b a' b' : Int}
    (hlt : a < b ↔ a' < b') (hgt : b < a ↔ b' < a') : rel a b = rel a' b' := by
  cases op <;> cases h <;> simp only [decide_eq_decide] <;> omega

theorem looseEq_int (a b : Int64) :
    (Value.int a).looseEq (.int b) = decide (nearestInt a.toInt = nearestInt b.toInt) :=
  floatOfInt64_beq a b

theorem order_int (a b : Int64) :
    order (.int a) (.int b) = .ok (compare (nearestInt a.toInt) (nearestInt b.toInt)) := by
  change (if floatOfInt64 a < floatOfInt64 b then _ else
    if floatOfInt64 a == floatOfInt64 b then _ else
    if floatOfInt64 b < floatOfInt64 a then _ else _) = _
  rw [floatOfInt64_beq]
  simp only [floatOfInt64_lt, decide_eq_true_iff]
  rcases lt_trichotomy (nearestInt a.toInt) (nearestInt b.toInt) with hlt | heq | hgt
  · rw [if_pos hlt, compare_lt_iff_lt.2 hlt]
  · rw [if_neg heq.not_lt, if_pos heq, compare_eq_iff_eq.2 heq]
  · rw [if_neg hgt.not_gt, if_neg hgt.ne', if_pos hgt, compare_gt_iff_gt.2 hgt]

/-- A comparison of integers relates what they are rounded to. -/
theorem apply_int (h : op.relation? = some rel) (a b : Int64) :
    op.apply (.int a) (.int b) = .ok (.bool (rel (nearestInt a.toInt) (nearestInt b.toInt))) := by
  have horder (test : Ordering → Bool) {answer : Bool}
      (h : test (compare (nearestInt a.toInt) (nearestInt b.toInt)) = answer) :
      (order (.int a) (.int b)).map (fun o => Value.bool (test o)) = .ok (.bool answer) := by
    rw [order_int, ← h]
    rfl
  cases op <;> cases h
  case eq =>
    change Except.ok (Value.bool ((Value.int a).looseEq (.int b))) = _
    rw [looseEq_int]
  case notEq =>
    change Except.ok (Value.bool (!(Value.int a).looseEq (.int b))) = _
    rw [looseEq_int, ← decide_not]
  case lt =>
    exact horder _ (by rw [Bool.eq_iff_iff, beq_iff_eq, compare_lt_iff_lt, decide_eq_true_iff])
  case le =>
    exact horder _ (by rw [Bool.eq_iff_iff, bne_iff_ne, compare_le_iff_le, decide_eq_true_iff])
  case gt =>
    exact horder _ (by rw [Bool.eq_iff_iff, beq_iff_eq, compare_gt_iff_gt, decide_eq_true_iff])
  case ge =>
    exact horder _ (by rw [Bool.eq_iff_iff, bne_iff_ne, compare_ge_iff_ge, decide_eq_true_iff])

/-- It is the relation of the integers themselves unless two different ones share a float. -/
theorem relation_nearestInt (h : op.relation? = some rel) {a b : Int}
    (hsame : nearestInt a = nearestInt b → a = b) :
    rel (nearestInt a) (nearestInt b) = rel a b :=
  relation_congr h (nearestInt_lt_iff hsame) (nearestInt_lt_iff fun h => (hsame h.symm).symm)

/-- Comparing two expressions whose values are integers: the answer is the relation of the floats
nearest to them, so that of the integers wherever these have different floats, and for certain up to
`2 ^ 53` on either side of zero. -/
theorem eval_comparison {read : Lookup} {left right : Expr} {a b : Int64}
    (h : op.relation? = some rel) (hleft : left.eval read = .ok (.int a))
    (hright : right.eval read = .ok (.int b)) :
    (Expr.binary op left right).eval read =
        .ok (.bool (rel (nearestInt a.toInt) (nearestInt b.toInt))) ∧
      ((nearestInt a.toInt = nearestInt b.toInt → a = b) →
        (Expr.binary op left right).eval read = .ok (.bool (rel a.toInt b.toInt))) ∧
      (a.toInt.natAbs ≤ 2 ^ 53 → b.toInt.natAbs ≤ 2 ^ 53 →
        (Expr.binary op left right).eval read = .ok (.bool (rel a.toInt b.toInt))) := by
  have heval : (Expr.binary op left right).eval read =
      .ok (.bool (rel (nearestInt a.toInt) (nearestInt b.toInt))) := by
    rw [Expr.eval, hleft, ok_bind, decided?_of_relation h, hright]
    exact apply_int h a b
  have hexact (hsame : nearestInt a.toInt = nearestInt b.toInt → a = b) :
      (Expr.binary op left right).eval read = .ok (.bool (rel a.toInt b.toInt)) := by
    rw [heval, relation_nearestInt h fun hnearest => congrArg Int64.toInt (hsame hnearest)]
  refine ⟨heval, hexact, fun ha hb => hexact fun hnearest => ?_⟩
  rw [nearestInt_of_le ha, nearestInt_of_le hb] at hnearest
  exact Int64.toInt_inj.1 hnearest

theorem eval_comparison_id :
    (Expr.binary .ge (.path ["id"]) (.literal (.int (-7)))).eval (fun _ => .ok (.int 40)) =
      .ok (.bool true) :=
  have hleft : (Expr.path ["id"]).eval (fun _ => .ok (.int 40)) = .ok (.int 40) := rfl
  have hright : (Expr.literal (.int (-7))).eval (fun _ => .ok (.int 40)) = .ok (.int (-7)) := rfl
  have hge : BinaryOp.ge.relation? = some fun a b => decide (b ≤ a) := rfl
  (eval_comparison hge hleft hright).2.2 (by decide) (by decide)

/-- The first two integers that share a float compare as equal, and the smaller one not as less. -/
theorem eval_comparison_shared :
    (Expr.binary .eq (.literal (.int 9007199254740992)) (.literal (.int 9007199254740993))).eval
        (fun _ => .ok .null) = .ok (.bool true) ∧
      (9007199254740992 : Int64) ≠ 9007199254740993 ∧
      (Expr.binary .lt (.literal (.int 9007199254740992)) (.literal (.int 9007199254740993))).eval
        (fun _ => .ok .null) = .ok (.bool false) ∧
      (9007199254740992 : Int64) < 9007199254740993 := by
  have heq : BinaryOp.eq.relation? = some fun a b => decide (a = b) := rfl
  have hlt : BinaryOp.lt.relation? = some fun a b => decide (a < b) := rfl
  refine ⟨?_, by decide, ?_, by decide⟩
  · exact (apply_int heq 9007199254740992 9007199254740993).trans rfl
  · exact (apply_int hlt 9007199254740992 9007199254740993).trans rfl

end PathBag.Code
