import PathBag.Code.Operators
import PathBag.Lookup
import PathBag.Text.Case
import PathBag.Text.Classes

/-!
# The value of an expression

The functions that code can call, and evaluation against a reader of keys.  A path that leads
nowhere reads as null, operands are evaluated from left to right, and the right one only if the left
one does not decide.
-/

namespace PathBag.Code

/-! ### Functions -/

/-- The functions. -/
inductive Builtin where
  | len | upper | lower | trim | str | int | float | has | get | default
  deriving DecidableEq

namespace Builtin

/-- The function of a name. -/
def ofName? : String → Option Builtin
  | "len" => some len
  | "upper" => some upper
  | "lower" => some lower
  | "trim" => some trim
  | "str" => some str
  | "int" => some int
  | "float" => some float
  | "has" => some has
  | "get" => some get
  | "default" => some default
  | _ => none

/-- How many arguments a function takes; the second one of `get` may be left out. -/
def arity : Builtin → Nat
  | get | default => 2
  | _ => 1

/-- The number of characters of a text, or of the children of a composite. -/
def length : Value → Except Fault Value
  | .string s => .ok (.int (Int64.ofNat s.length))
  | v =>
    if v.isComposite then .ok (.int (Int64.ofNat v.size))
    else .error (.badOperand v.kind "len()")

/-- The integer next to the number of a value towards zero; a value without number gives zero. -/
def toInteger : Value → Int64
  | .int n => n
  | .bool b => if b then 1 else 0
  | v =>
    match v.number? with
    | some a => Decimal.saturate a.toFloat
    | none => 0

/-- The float of a value; a value without number gives zero. -/
def toFloat : Value → Float
  | .bool b => if b then 1.0 else 0.0
  | v =>
    match v.number? with
    | some a => a.toFloat
    | none => 0.0

/-- The value of a call, in which `name` is the name under which the function was called. -/
def apply (read : Lookup) (name : String) : Builtin → List Value → Except Fault Value
  | len, [v] => length v
  | upper, [v] => .ok (.string (Text.upper v.render))
  | lower, [v] => .ok (.string (Text.lower v.render))
  | trim, [v] => .ok (.string (Text.trim v.render))
  | str, [v] => .ok (.string v.render)
  | int, [v] => .ok (.int (toInteger v))
  | float, [v] => .ok (.float (toFloat v))
  | has, [v] => (read.has v.render).map .bool
  | get, [v] => read.get v.render .null
  | get, [v, fallback] => read.get v.render fallback
  | default, [v, fallback] => .ok (if v.isTruthy then v else fallback)
  | f, vs => .error (.wrongArgumentCount name f.arity vs.length)

/-- The value of the function of a name. -/
def call (read : Lookup) (name : String) (vs : List Value) : Except Fault Value :=
  match ofName? name with
  | some f => f.apply read name vs
  | none => .error (.unknownFunction name)

end Builtin

/-! ### Evaluation -/

mutual

/-- The value of an expression. -/
def Expr.eval (read : Lookup) : Expr → Except Fault Value
  | .literal v => .ok v
  | .list items => (evalAll read items).map .sequence
  | .path segments => read.get segments.toKey .null
  | .unary op operand => do op.apply (← operand.eval read)
  | .binary op left right => do
    let v ← left.eval read
    match op.decided? v with
    | some w => .ok w
    | none => op.apply v (← right.eval read)
  | .cond condition yes no => do
    if (← condition.eval read).isTruthy then yes.eval read else no.eval read
  | .call name arguments => do Builtin.call read name (← evalAll read arguments)

/-- The values of expressions, from left to right. -/
def evalAll (read : Lookup) : List Expr → Except Fault (List Value)
  | [] => .ok []
  | e :: es => do
    let v ← e.eval read
    return v :: (← evalAll read es)

end

end PathBag.Code
