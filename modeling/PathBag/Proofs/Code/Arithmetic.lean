import PathBag.Code.Eval
import PathBag.Proofs.Decimal.Floats
import PathBag.Proofs.Decimal.Integers
import PathBag.Proofs.Eval.Outcome

/-!
# Arithmetic of integers

Integers never wrap around.  A sum, a difference, a product and a negative are exact or stop as an
overflow (`IsExact`), and a remainder is always there but by zero.

A division asks twice: whether the float of the divisor is zero, and whether something is left.  The
float is zero only for zero.  If nothing is left, the quotient is a 64-bit integer already
(`remainder?_eq_zero_iff`), so the overflow behind it is out of reach.
-/

namespace PathBag.Code

open Decimal

/-- The outcome of an operation on integers whose exact result is `n`: the 64-bit integer that `n`
is, or an overflow if it is none. -/
structure IsExact (n : Int) (x : Except Fault Value) : Prop where
  fits : ∀ m : Int64, m.toInt = n → x = .ok (.int m)
  overflows : (∀ m : Int64, m.toInt ≠ n) → IsRuntimeError 506 x

theorem arithmetic_int (op : Arithmetic) (a b : Int64) :
    IsExact (op.onInt a.toInt b.toInt) (op.apply (.int a) (.int b)) where
  fits m hm := by
    have hsome := toInt64?_eq_some_iff.2 hm
    simp only [Arithmetic.apply, hsome]
  overflows h := by
    have hnone := toInt64?_eq_none_iff.2 h
    simp only [Arithmetic.apply, hnone]
    exact ⟨.overflow a op.symbol b, _, rfl, rfl, rfl⟩

theorem negate_int (a : Int64) : IsExact (-a.toInt) (UnaryOp.negate.apply (.int a)) where
  fits m hm := by
    have hsome := toInt64?_eq_some_iff.2 hm
    simp only [UnaryOp.apply, hsome]
  overflows h := by
    have hnone := toInt64?_eq_none_iff.2 h
    simp only [UnaryOp.apply, hnone]
    exact ⟨.negationOverflow, _, rfl, rfl, rfl⟩

theorem remainder_int {b : Int64} (hb : b ≠ 0) (a : Int64) :
    remainder (.int a) (.int b) = .ok (.int (a % b)) := by
  simp only [remainder, hb, if_false, ofInt_tmod]

/-! ### Division -/

variable {a b q : Int64}

/-- Nothing is left exactly if the first integer is a 64-bit multiple of the second. -/
theorem remainder?_eq_zero_iff :
    remainder? a b = some 0 ↔ b ≠ 0 ∧ ∃ q : Int64, q.toInt * b.toInt = a.toInt := by
  constructor
  · intro h
    unfold remainder? at h
    split at h
    · cases h
    · next hguard =>
      obtain ⟨hb, hmin⟩ := not_or.1 hguard
      obtain ⟨q, hq⟩ := exists_toInt_tdiv hmin
      have hmod : a.toInt.tmod b.toInt = 0 := by
        rw [← Int64.toInt_mod, Option.some.inj h, Int64.toInt_zero]
      exact ⟨hb, q, by rw [hq, Int.tdiv_mul_cancel_of_tmod_eq_zero hmod]⟩
  · rintro ⟨hb, q, hq⟩
    have hguard : ¬ (b = 0 ∨ a = Int64.minValue ∧ b = -1) := by
      rintro (hzero | ⟨rfl, rfl⟩)
      · exact hb hzero
      · exact mul_neg_one_ne_minValue q hq
    have hmod : a % b = 0 := by
      rw [← Int64.toInt_inj, Int64.toInt_mod, ← hq, Int.mul_tmod_left, Int64.toInt_zero]
    rw [remainder?, if_neg hguard, hmod]

theorem quotient?_of_mul (hb : b ≠ 0) (hq : q.toInt * b.toInt = a.toInt) :
    quotient? a b = some q := by
  have hne : b.toInt ≠ 0 := by
    rwa [← Int64.toInt_zero, Ne, Int64.toInt_inj]
  rw [quotient?, if_neg hb, toInt64?_eq_some_iff, ← hq, Int.mul_tdiv_cancel _ hne]

theorem quotient_int_zero (a : Int64) : quotient (.int a) (.int 0) = .error .divisionByZero := by
  simp only [quotient, Value.number?, Number.toFloat, floatOfInt64_beq_zero, decide_true, if_true]

theorem quotient_int_of_mul (hb : b ≠ 0) (hq : q.toInt * b.toInt = a.toInt) :
    quotient (.int a) (.int b) = .ok (.int q) := by
  have hrest : remainder? a b = some 0 := remainder?_eq_zero_iff.2 ⟨hb, q, hq⟩
  simp only [quotient, Value.number?, Number.toFloat, floatOfInt64_beq_zero, decide_eq_true_iff,
    hb, if_false, hrest, if_true, quotient?_of_mul hb hq]

theorem quotient_int_of_ne (hb : b ≠ 0) (h : ∀ q : Int64, q.toInt * b.toInt ≠ a.toInt) :
    quotient (.int a) (.int b) = .ok (.float (floatOfInt64 a / floatOfInt64 b)) := by
  have hrest : remainder? a b ≠ some 0 := by
    intro hrest
    obtain ⟨-, q, hq⟩ := remainder?_eq_zero_iff.1 hrest
    exact h q hq
  simp only [quotient, Value.number?, Number.toFloat, floatOfInt64_beq_zero, decide_eq_true_iff,
    hb, if_false, hrest]

/-- The three ways in which a division of integers ends. -/
theorem quotient_int_cases (a b : Int64) :
    (b = 0 ∧ quotient (.int a) (.int b) = .error .divisionByZero) ∨
    (∃ q : Int64, b ≠ 0 ∧ q.toInt * b.toInt = a.toInt ∧
      quotient (.int a) (.int b) = .ok (.int q)) ∨
    (b ≠ 0 ∧ (∀ q : Int64, q.toInt * b.toInt ≠ a.toInt) ∧
      quotient (.int a) (.int b) = .ok (.float (floatOfInt64 a / floatOfInt64 b))) := by
  by_cases hb : b = 0
  · subst hb
    exact .inl ⟨rfl, quotient_int_zero a⟩
  · by_cases hq : ∃ q : Int64, q.toInt * b.toInt = a.toInt
    · obtain ⟨q, hq⟩ := hq
      exact .inr (.inl ⟨q, hb, hq, quotient_int_of_mul hb hq⟩)
    · have hne : ∀ q : Int64, q.toInt * b.toInt ≠ a.toInt := fun q h => hq ⟨q, h⟩
      exact .inr (.inr ⟨hb, hne, quotient_int_of_ne hb hne⟩)

/-- Only zero as the divisor is an error. -/
theorem isRuntimeError_quotient_iff {code : Nat} :
    IsRuntimeError code (quotient (.int a) (.int b)) ↔ b = 0 ∧ code = 502 := by
  rcases quotient_int_cases a b with ⟨hb, h⟩ | ⟨q, hb, -, h⟩ | ⟨hb, -, h⟩
  · have hzero : IsRuntimeError 502 (quotient (.int a) (.int b)) :=
      h ▸ ⟨.divisionByZero, _, rfl, rfl, rfl⟩
    constructor
    · intro hcode
      exact ⟨hb, hcode.code_eq hzero⟩
    · rintro ⟨-, rfl⟩
      exact hzero
  · rw [h]
    simp [not_isRuntimeError_ok, hb]
  · rw [h]
    simp [not_isRuntimeError_ok, hb]

theorem quotient_eq_int_iff :
    quotient (.int a) (.int b) = .ok (.int q) ↔ b ≠ 0 ∧ q.toInt * b.toInt = a.toInt := by
  constructor
  · intro h
    rcases quotient_int_cases a b with ⟨-, h'⟩ | ⟨q', hb, hq', h'⟩ | ⟨-, -, h'⟩
    · cases h.symm.trans h'
    · cases h.symm.trans h'
      exact ⟨hb, hq'⟩
    · cases h.symm.trans h'
  · rintro ⟨hb, hq⟩
    exact quotient_int_of_mul hb hq

theorem quotient_eq_float_iff {x : Float} :
    quotient (.int a) (.int b) = .ok (.float x) ↔
      b ≠ 0 ∧ (∀ q : Int64, q.toInt * b.toInt ≠ a.toInt) ∧
        x = floatOfInt64 a / floatOfInt64 b := by
  constructor
  · intro h
    rcases quotient_int_cases a b with ⟨-, h'⟩ | ⟨q, -, -, h'⟩ | ⟨hb, hne, h'⟩
    · cases h.symm.trans h'
    · cases h.symm.trans h'
    · cases h.symm.trans h'
      exact ⟨hb, hne, rfl⟩
  · rintro ⟨hb, hne, rfl⟩
    exact quotient_int_of_ne hb hne

/-! ### Expressions -/

section Eval

variable {read : Lookup} {left right : Expr} {v w : Value}

theorem eval_unary (op : UnaryOp) (h : left.eval read = .ok v) :
    (Expr.unary op left).eval read = op.apply v := by
  rw [Expr.eval, h, ok_bind]

theorem eval_binary {op : BinaryOp} (hop : op.decided? v = none) (hleft : left.eval read = .ok v)
    (hright : right.eval read = .ok w) : (Expr.binary op left right).eval read = op.apply v w := by
  rw [Expr.eval, hleft, ok_bind, hop, hright]
  rfl

/-- **Arithmetic never wraps around.**  Take two expressions whose values are integers.  Their sum,
difference and product and the negative of the first are exact, or stop as an overflow where no
64-bit integer is.  The remainder is that of a division rounded towards zero, and an error by zero.
The quotient is an error exactly by zero, an integer exactly if there is a 64-bit integer that times
the divisor gives the dividend, and else the quotient of the floats; it never overflows. -/
theorem eval_arithmetic {a b : Int64} (hleft : left.eval read = .ok (.int a))
    (hright : right.eval read = .ok (.int b)) :
    IsExact (a.toInt + b.toInt) ((Expr.binary .add left right).eval read) ∧
    IsExact (a.toInt - b.toInt) ((Expr.binary .sub left right).eval read) ∧
    IsExact (a.toInt * b.toInt) ((Expr.binary .mul left right).eval read) ∧
    IsExact (-a.toInt) ((Expr.unary .negate left).eval read) ∧
    ((b = 0 → IsRuntimeError 502 ((Expr.binary .rem left right).eval read)) ∧
      (b ≠ 0 → ∃ r : Int64, r.toInt = a.toInt.tmod b.toInt ∧
        (Expr.binary .rem left right).eval read = .ok (.int r))) ∧
    (IsRuntimeError 502 ((Expr.binary .div left right).eval read) ↔ b = 0) ∧
    (∀ q : Int64, (Expr.binary .div left right).eval read = .ok (.int q) ↔
      b ≠ 0 ∧ q.toInt * b.toInt = a.toInt) ∧
    (∀ x : Float, (Expr.binary .div left right).eval read = .ok (.float x) ↔
      b ≠ 0 ∧ (∀ q : Int64, q.toInt * b.toInt ≠ a.toInt) ∧
        x = floatOfInt64 a / floatOfInt64 b) ∧
    ¬ IsRuntimeError 506 ((Expr.binary .div left right).eval read) := by
  have heval {op : BinaryOp} (hop : op.decided? (.int a) = none) :
      (Expr.binary op left right).eval read = op.apply (.int a) (.int b) :=
    eval_binary hop hleft hright
  have hadd : (Expr.binary .add left right).eval read = Arithmetic.add.apply (.int a) (.int b) :=
    heval rfl
  have hsub : (Expr.binary .sub left right).eval read = Arithmetic.sub.apply (.int a) (.int b) :=
    heval rfl
  have hmul : (Expr.binary .mul left right).eval read = Arithmetic.mul.apply (.int a) (.int b) :=
    heval rfl
  have hdiv : (Expr.binary .div left right).eval read = quotient (.int a) (.int b) := heval rfl
  have hrem : (Expr.binary .rem left right).eval read = remainder (.int a) (.int b) := heval rfl
  refine ⟨?_, ?_, ?_, ?_, ⟨?_, ?_⟩, ?_, ?_, ?_, ?_⟩
  · exact hadd ▸ arithmetic_int .add a b
  · exact hsub ▸ arithmetic_int .sub a b
  · exact hmul ▸ arithmetic_int .mul a b
  · exact eval_unary .negate hleft ▸ negate_int a
  · rintro rfl
    exact hrem ▸ ⟨.remainderByZero, _, rfl, rfl, rfl⟩
  · intro hb
    exact ⟨a % b, Int64.toInt_mod a b, hrem.trans (remainder_int hb a)⟩
  · rw [hdiv, isRuntimeError_quotient_iff]
    simp
  · intro q
    rw [hdiv, quotient_eq_int_iff]
  · intro x
    rw [hdiv, quotient_eq_float_iff]
  · rw [hdiv, isRuntimeError_quotient_iff]
    simp

/-- The corner of the range: the least integer and `-1`. -/
theorem eval_arithmetic_least :
    ((Expr.literal (.int Int64.minValue)).eval (fun _ => .ok .null) = .ok (.int Int64.minValue) ∧
      (Expr.literal (.int (-1))).eval (fun _ => .ok .null) = .ok (.int (-1))) ∧
    IsRuntimeError 506 ((Expr.binary .add (.literal (.int Int64.minValue))
      (.literal (.int (-1)))).eval fun _ => .ok .null) ∧
    (Expr.binary .sub (.literal (.int Int64.minValue)) (.literal (.int (-1)))).eval
      (fun _ => .ok .null) = .ok (.int (-9223372036854775807)) ∧
    IsRuntimeError 506 ((Expr.unary .negate (.literal (.int Int64.minValue))).eval
      fun _ => .ok .null) ∧
    (Expr.binary .rem (.literal (.int Int64.minValue)) (.literal (.int (-1)))).eval
      (fun _ => .ok .null) = .ok (.int 0) ∧
    ∃ x, (Expr.binary .div (.literal (.int Int64.minValue)) (.literal (.int (-1)))).eval
      (fun _ => .ok .null) = .ok (.float x) := by
  have hleft : (Expr.literal (.int Int64.minValue)).eval (fun _ => .ok .null) =
      .ok (.int Int64.minValue) := rfl
  have hright : (Expr.literal (.int (-1))).eval (fun _ => .ok .null) = .ok (.int (-1)) := rfl
  have hmin : Int64.minValue.toInt = -9223372036854775808 := by decide
  have hone : (-1 : Int64).toInt = -1 := by decide
  obtain ⟨hadd, hsub, -, hneg, ⟨-, hrem⟩, -, -, hdiv, -⟩ := eval_arithmetic hleft hright
  refine ⟨⟨hleft, hright⟩, hadd.overflows ?_, hsub.fits _ (by decide), hneg.overflows ?_, ?_, ?_⟩
  · intro m hm
    have hlow := m.le_toInt
    omega
  · intro m hm
    have hhigh := m.toInt_lt
    omega
  · obtain ⟨r, hr, heval⟩ := hrem (by decide)
    obtain rfl : r = 0 := Int64.toInt_inj.1 (hr.trans (by decide))
    exact heval
  · exact ⟨_, (hdiv _).2 ⟨by decide, fun q => mul_neg_one_ne_minValue q, rfl⟩⟩

end Eval

end PathBag.Code
