import PathBag.Code.Language
import PathBag.Decimal.Float
import PathBag.Fault
import PathBag.Value.Coercion

/-!
# Operators

What operators do to values.  Two integers give an integer or an overflow, never a wrapped one; a
division of integers that leaves a remainder, or whose quotient is no 64-bit integer, gives a float.
-/

namespace PathBag.Code

/-- The operations that integers and floats share. -/
inductive Arithmetic where
  | add | sub | mul

namespace Arithmetic

/-- The operator in messages. -/
def symbol : Arithmetic → String
  | add => "+"
  | sub => "-"
  | mul => "*"

/-- The operation on integers. -/
def onInt : Arithmetic → Int → Int → Int
  | add, a, b => a + b
  | sub, a, b => a - b
  | mul, a, b => a * b

/-- The operation on floats. -/
def onFloat : Arithmetic → Float → Float → Float
  | add, x, y => x + y
  | sub, x, y => x - y
  | mul, x, y => x * y

/-- The operation on values. -/
def apply (op : Arithmetic) (v w : Value) : Except Fault Value :=
  match v, w with
  | .int a, .int b =>
    match Decimal.toInt64? (op.onInt a.toInt b.toInt) with
    | some n => .ok (.int n)
    | none => .error (.overflow a op.symbol b)
  | v, w =>
    match v.number?, w.number? with
    | some a, some b => .ok (.float (op.onFloat a.toFloat b.toFloat))
    | none, _ => .error (.badOperand v.kind op.symbol)
    | _, none => .error (.badOperand w.kind op.symbol)

end Arithmetic

/-- The sum of two values, or their texts one after the other if one of them is a text. -/
def sum (v w : Value) : Except Fault Value :=
  match v, w with
  | .string _, _ | _, .string _ => .ok (.string (v.render ++ w.render))
  | v, w => Arithmetic.add.apply v w

/-- The quotient of two integers, rounded towards zero, if it is a 64-bit integer. -/
def quotient? (a b : Int64) : Option Int64 :=
  if b = 0 then none else Decimal.toInt64? (a.toInt.tdiv b.toInt)

/-- What is left of the first integer after a division by the second, if the quotient is a 64-bit
integer.  The least integer by `-1` is the one division whose quotient is too great. -/
def remainder? (a b : Int64) : Option Int64 :=
  if b = 0 ∨ a = Int64.minValue ∧ b = -1 then none else some (a % b)

/-- The quotient of two values: of integers an integer if nothing is left, else a float.  The float
of the divisor decides whether there is a quotient. -/
def quotient (v w : Value) : Except Fault Value :=
  match v.number?, w.number? with
  | some a, some b =>
    if b.toFloat == 0.0 then .error .divisionByZero
    else
      let ratio := Value.float (a.toFloat / b.toFloat)
      match a, b with
      | .int m, .int n =>
        if remainder? m n = some 0 then
          match quotient? m n with
          | some q => .ok (.int q)
          | none => .error .quotientOverflow
        else .ok ratio
      | _, _ => .ok ratio
  | none, _ => .error (.badOperand v.kind "/")
  | _, none => .error (.badOperand w.kind "/")

/-- The remainder of two integers, with the sign of the first. -/
def remainder (v w : Value) : Except Fault Value :=
  match v, w with
  | .int a, .int b =>
    if b = 0 then .error .remainderByZero else .ok (.int (Int64.ofInt (a.toInt.tmod b.toInt)))
  | .int _, w => .error (.badOperand w.kind "%")
  | v, _ => .error (.badOperand v.kind "%")

/-- The order of two values: of two texts by their characters, else of the numbers they stand
for. -/
def order (v w : Value) : Except Fault Ordering :=
  match v, w with
  | .string s, .string t => .ok (if s < t then .lt else if s = t then .eq else .gt)
  | v, w =>
    match v.number?, w.number? with
    | some a, some b =>
      let (x, y) := (a.toFloat, b.toFloat)
      if x < y then .ok .lt
      else if x == y then .ok .eq
      else if y < x then .ok .gt
      else .error .comparesNaN
    | _, _ => .error (.incomparable v.kind w.kind)

/-- The value of an operator with one operand. -/
def UnaryOp.apply : UnaryOp → Value → Except Fault Value
  | .not, v => .ok (.bool (!v.isTruthy))
  | .negate, .int n =>
    match Decimal.toInt64? (-n.toInt) with
    | some m => .ok (.int m)
    | none => .error .negationOverflow
  | .negate, v =>
    match v.number? with
    | some a => .ok (.float (-a.toFloat))
    | none => .error (.badOperand v.kind "-")

/-- The value of an operator whose operands are both known. -/
def BinaryOp.apply : BinaryOp → Value → Value → Except Fault Value
  | .or, v, w => .ok (.bool (v.isTruthy || w.isTruthy))
  | .and, v, w => .ok (.bool (v.isTruthy && w.isTruthy))
  | .coalesce, v, w => .ok (if v.isNull then w else v)
  | .eq, v, w => .ok (.bool (v.looseEq w))
  | .notEq, v, w => .ok (.bool (!v.looseEq w))
  | .lt, v, w => (order v w).map fun o => .bool (o == .lt)
  | .le, v, w => (order v w).map fun o => .bool (o != .gt)
  | .gt, v, w => (order v w).map fun o => .bool (o == .gt)
  | .ge, v, w => (order v w).map fun o => .bool (o != .lt)
  | .concat, v, w => .ok (.string (v.render ++ w.render))
  | .add, v, w => sum v w
  | .sub, v, w => Arithmetic.sub.apply v w
  | .mul, v, w => Arithmetic.mul.apply v w
  | .div, v, w => quotient v w
  | .rem, v, w => remainder v w

/-- The value of an operator whose left operand decides alone, if it does. -/
def BinaryOp.decided? : BinaryOp → Value → Option Value
  | .or, v => if v.isTruthy then some (.bool true) else none
  | .and, v => if v.isTruthy then none else some (.bool false)
  | .coalesce, v => if v.isNull then none else some v
  | _, _ => none

end PathBag.Code
