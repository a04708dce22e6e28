import PathBag.Code.Eval
import PathBag.Code.Parser
import PathBag.Decimal.Text
import PathBag.Marker.Piece
import PathBag.Text.Classes
import PathBag.Value.Basic

/-!
# The value of a text with markers

The forms are evaluated one after the other: references until none is left, then placeholders, once,
then code.  A marker that is the whole text gives the value itself; any other reference or
placeholder is replaced by the text of its value, and code within a larger text stays as it is.

A placeholder may name a default behind its key.  The default is a literal: a keyword, a number, a
quoted text, or else its own text.
-/

namespace PathBag.Marker

/-! ### Defaults -/

/-- The content of a text in the given quotes. -/
def unquote? (quote : Char) : List Char → Option (List Char)
  | [] => none
  | c :: cs => if c = quote ∧ cs.getLast? = some quote then some cs.dropLast else none

/-- The value of a literal. -/
def literal (raw : List Char) : Value :=
  let cs := Text.trimChars raw
  if cs = "true".toList then .bool true
  else if cs = "false".toList then .bool false
  else if cs = "null".toList then .null
  else
    match Decimal.readInt64 cs with
    | some n => .int n
    | none =>
      match if cs.all Decimal.isDecimalChar then Decimal.readFloat cs else none with
      | some x => .float x
      | none =>
        match (unquote? '"' cs).or (unquote? '\'' cs) with
        | some text => .string (String.ofList text)
        | none => .string (String.ofList cs)

/-- The parts of a text before and after the last occurrence of a word. -/
def cutLast (word : List Char) : List Char → Option (List Char × List Char)
  | [] => none
  | c :: cs =>
    match cutLast word cs with
    | some (before, after) => some (c :: before, after)
    | none => if word.isPrefixOf (c :: cs) then some ([], (c :: cs).drop word.length) else none

/-- The key of a placeholder and the text of its default, if it names one.  The key has at least
one character, and the default reaches from the last `|default(` to the end. -/
def splitDefault (body : List Char) : Option (List Char × List Char) :=
  match body with
  | [] => none
  | c :: cs =>
    if cs.getLast? = some ')' then
      (cutLast "|default(".toList cs.dropLast).map fun (key, raw) => (c :: key, raw)
    else none

/-! ### Evaluation -/

/-- What a key without value reads as. -/
def undefined : Value := .string "undefined"

/-- The text of pieces in which `f` gives the texts of the markers. -/
def substitute (f : List Char → Except Fault Value) : List Piece → Except Fault (List Char)
  | [] => .ok []
  | .plain c :: ps => do return c :: (← substitute f ps)
  | .marker body :: ps => do
    let v ← f body
    return v.render.toList ++ (← substitute f ps)

/-- The value of a reference. -/
def referenceValue (read : Lookup) (body : List Char) : Except Fault Value :=
  read.get (String.ofList body) undefined

/-- The value of a placeholder. -/
def placeholderValue (read : Lookup) (body : List Char) : Except Fault Value :=
  match splitDefault body with
  | some (key, raw) => read.get (String.ofList key) (literal raw)
  | none => read.get (String.ofList body) undefined

/-- The value of a text in which at most code is left. -/
def evalCode (read : Lookup) (cs : List Char) : Except Fault Value :=
  match Form.code.pieces cs with
  | [.marker body] => do (← Code.parse (String.ofList body)).eval read
  | _ => .ok (.string (String.ofList cs))

/-- The value of a text without references. -/
def evalPlaceholders (read : Lookup) (cs : List Char) : Except Fault Value :=
  match Form.placeholder.pieces cs with
  | [.marker body] => placeholderValue read body
  | ps => do evalCode read (← substitute (placeholderValue read) ps)

/-- The value of a text whose references are replaced at most `rounds` times. -/
def evalReferences (read : Lookup) : (rounds : Nat) → List Char → Except Fault Value
  | rounds, cs =>
    match Form.reference.pieces cs with
    | [.marker body] => referenceValue read body
    | ps =>
      if ps.any Piece.isMarker then
        match rounds with
        | 0 => .error (.keepsExpanding (String.ofList cs))
        | rounds + 1 => do
          evalReferences read rounds (← substitute (referenceValue read) ps)
      else evalPlaceholders read cs

/-- How often references in a text may be replaced. -/
def roundLimit : Nat := 64

/-- The value of a text. -/
def eval (read : Lookup) (text : String) : Except Fault Value :=
  evalReferences read roundLimit text.toList

end PathBag.Marker
