import PathBag.Decimal.Text
import PathBag.Json.Quoted
import PathBag.Value.Basic

/-!
# Values as JSON

A value is written on one line without spaces, or spread over lines with two spaces of indentation
a level.  Mappings keep their order, and floats that are no numbers are written as `null`.
-/

namespace PathBag.Json

/-- Floats in JSON: a point or an exponent is always there, an exponent is signed, and digits stand
in place from `0.00001` up to sixteen places before the point. -/
def floatStyle : Decimal.FloatStyle where
  positional e := -5 ≤ e && e < 16
  pointZero := true
  plusSign := true
  tie := .even
  nan := "null"
  infinity := "null"
  negInfinity := "null"

/-- The two layouts. -/
inductive Layout where
  | compact | pretty

/-- What stands in front of an item `depth` levels down. -/
def Layout.lineBreak : Layout → Nat → List Char
  | compact, _ => []
  | pretty, depth => '\n' :: List.replicate (2 * depth) ' '

/-- What stands between a name and its content. -/
def Layout.colon : Layout → List Char
  | compact => [':']
  | pretty => [':', ' ']

mutual

/-- The text of a value that stands `depth` levels down. -/
def chars (layout : Layout) (depth : Nat) : Value → List Char
  | .null => "null".toList
  | .bool b => (if b then "true" else "false").toList
  | .int n => (Decimal.writeInt64 n).toList
  | .float x => (floatStyle.write x).toList
  | .string s => quoted s.toList
  | .sequence [] => ['[', ']']
  | .sequence (x :: xs) =>
    '[' :: layout.lineBreak (depth + 1) ++ chars layout (depth + 1) x ++
      itemChars layout (depth + 1) xs ++ layout.lineBreak depth ++ [']']
  | .mapping [] => ['\x7B', '\x7D']
  | .mapping ((name, v) :: es) =>
    '\x7B' :: layout.lineBreak (depth + 1) ++ quoted name.toList ++ layout.colon ++
      chars layout (depth + 1) v ++ entryChars layout (depth + 1) es ++ layout.lineBreak depth ++
      ['\x7D']

/-- The items after the first one. -/
def itemChars (layout : Layout) (depth : Nat) : List Value → List Char
  | [] => []
  | x :: xs => ',' :: layout.lineBreak depth ++ chars layout depth x ++ itemChars layout depth xs

/-- The entries after the first one. -/
def entryChars (layout : Layout) (depth : Nat) : List (String × Value) → List Char
  | [] => []
  | (name, v) :: es =>
    ',' :: layout.lineBreak depth ++ quoted name.toList ++ layout.colon ++ chars layout depth v ++
      entryChars layout depth es

end

mutual

/-- What is left of a value in JSON: floats that are no numbers turn into null. -/
def representable : Value → Value
  | .float x => if Decimal.isFinite x then .float x else .null
  | .sequence xs => .sequence (representableItems xs)
  | .mapping es => .mapping (representableEntries es)
  | v => v

/-- What is left of items. -/
def representableItems : List Value → List Value
  | [] => []
  | x :: xs => representable x :: representableItems xs

/-- What is left of entries. -/
def representableEntries : List (String × Value) → List (String × Value)
  | [] => []
  | (name, v) :: es => (name, representable v) :: representableEntries es

end

/-- The JSON text of a value. -/
def write (layout : Layout) (v : Value) : String := String.ofList (chars layout 0 v)

end PathBag.Json
