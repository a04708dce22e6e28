import PathBag.Decimal.Float
import PathBag.Decimal.Text
import PathBag.Json.Printer
import PathBag.Text.Classes
import PathBag.Value.Basic

/-!
# What values stand for

The number and the text that a value stands for, equality of values, and the loose equality that
expressions use.  Within a larger text scalars stand plainly, and composites as compact JSON.
-/

namespace PathBag

/-! ### Numbers and equality -/

/-- A number as an expression sees it. -/
inductive Number where
  | int (n : Int64)
  | float (x : Float)

namespace Number

/-- The float nearest to a number. -/
def toFloat : Number → Float
  | int n => Decimal.floatOfInt64 n
  | float x => x

/-- The number that a text spells in decimal, blanks around it aside. -/
def ofText? (s : String) : Option Number :=
  let cs := Text.trimChars s.toList
  if cs.all Decimal.isDecimalChar then (Decimal.readFloat cs).map float else none

end Number

namespace Value

/-- The number that a value stands for. -/
def number? : Value → Option Number
  | int n => some (.int n)
  | float x => some (.float x)
  | string s => Number.ofText? s
  | _ => none

mutual

/-- Equality of values.  Kinds are told apart, floats compare as numbers, and the order of the
entries of a mapping does not count. -/
def same : Value → Value → Bool
  | null, null => true
  | bool a, bool b => a == b
  | int a, int b => a == b
  | float a, float b => a == b
  | string a, string b => a == b
  | sequence xs, sequence ys => sameItems xs ys
  | mapping es, mapping fs => es.length == fs.length && sameEntries es fs
  | _, _ => false

/-- Equality of sequences, item by item. -/
def sameItems : List Value → List Value → Bool
  | [], [] => true
  | x :: xs, y :: ys => same x y && sameItems xs ys
  | _, _ => false

/-- Is every entry also in `fs`? -/
def sameEntries : List (String × Value) → Entries Value → Bool
  | [], _ => true
  | (name, v) :: es, fs =>
    match fs.find? name with
    | some w => same v w && sameEntries es fs
    | none => false

end

/-- Equality of expressions: against a boolean the truth of the other side counts, null equals what
is false, texts compare as texts, all else as numbers where both sides have one. -/
def looseEq : Value → Value → Bool
  | bool b, w => b == w.isTruthy
  | v, bool b => b == v.isTruthy
  | null, w => !w.isTruthy
  | v, null => !v.isTruthy
  | string a, string b => a == b
  | v, w =>
    match v.number?, w.number? with
    | some a, some b => a.toFloat == b.toFloat
    | _, _ => same v w

end Value

/-! ### Text -/

/-- Floats in text: always in place, and whole numbers without a point. -/
def textFloatStyle : Decimal.FloatStyle where
  positional _ := true
  pointZero := false
  plusSign := false
  tie := .up
  nan := "NaN"
  infinity := "inf"
  negInfinity := "-inf"

/-- The text of a value within a larger text. -/
def Value.render : Value → String
  | null => "null"
  | bool b => if b then "true" else "false"
  | int n => Decimal.writeInt64 n
  | float x => textFloatStyle.write x
  | string s => s
  | v => Json.write .compact v

end PathBag
