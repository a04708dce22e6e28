import PathBag.Fault
import PathBag.Value.Coercion

/-!
# Reports

The report on a fault is what is shown of it: a complaint, a hint on what to do, and a code to find
it by.  All wording is here.
-/

namespace PathBag

/-- What a report says in the first place. -/
inductive Complaint where
  | noValue (key segment : String)
  | syntaxError (text : String) (pos : Code.Position)
  | unclosedString (quote : Char) (pos : Code.Position)
  | unexpectedCharacter (c : Char) (pos : Code.Position)
  | typeError (text : String)
  | runtimeError (text : String)
  | jsonError (text : String)

/-- A complaint with a hint on what to do about it and a code to find it by. -/
structure Report where
  complaint : Complaint
  hint : Option String
  code : Option Nat

/-- The place of a report. -/
def Code.Position.shown (p : Code.Position) : String :=
  Decimal.writeNat p.line ++ ":" ++ Decimal.writeNat p.column

/-- The text of a complaint. -/
def Complaint.text : Complaint → String
  | .noValue key segment =>
    "No value for '" ++ key ++ "' (missing segment '" ++ segment ++ "')"
  | .syntaxError text pos => "Syntax Error at " ++ pos.shown ++ ": " ++ text
  | .unclosedString quote pos =>
    "Unclosed string starting with '" ++ quote.toString ++ "' at " ++ pos.shown
  | .unexpectedCharacter c pos =>
    "Unexpected character '" ++ c.toString ++ "' at " ++ pos.shown
  | .typeError text => "Type Error: " ++ text
  | .runtimeError text => "Runtime Error: " ++ text
  | .jsonError text => "JSON Error: " ++ text

/-- The text of a report. -/
def Report.text (r : Report) : String :=
  "[BAG] " ++ r.complaint.text ++
    (match r.hint with
      | some hint => " Hint: " ++ hint
      | none => "") ++
    match r.code with
    | some code => " Code: " ++ Decimal.writeNat code
    | none => ""

/-- Does a report say that a key leads nowhere? -/
def Report.isMiss (r : Report) : Bool :=
  match r.complaint with
  | .noValue _ _ => true
  | _ => false

/-- A report without hint. -/
def Report.plain (complaint : Complaint) (code : Nat) : Report := ⟨complaint, none, some code⟩

/-- A report with a hint. -/
def Report.hinted (complaint : Complaint) (hint : String) (code : Nat) : Report :=
  ⟨complaint, some hint, some code⟩

/-- The name of an expectation in messages. -/
def Expected.name : Expected → String
  | .string => "string"
  | .bool => "bool"
  | .integer => "integer"
  | .number => "number"
  | .sequence => "sequence"
  | .mapping => "mapping"

/-- The code of a type that was expected. -/
def Expected.code : Expected → Nat
  | .string => 401
  | .bool => 402
  | .integer => 403
  | .number => 404
  | .sequence => 407
  | .mapping => 408

/-- The report on a fault. -/
def Fault.report : Fault → Report
  | .noValue key segment =>
    .hinted (.noValue key segment) "Check that the path exists in the bag" 301
  | .notJson => .hinted (.jsonError "no JSON document") "Bags are built from a JSON object" 601
  | .unclosedString quote pos =>
    .hinted (.unclosedString quote pos) "String literal not closed" 103
  | .strayCharacter c pos =>
    .hinted (.unexpectedCharacter c pos) "Unexpected character in expression" 104
  | .halfOperator c pos =>
    .hinted (.unexpectedCharacter c pos)
      ("Did you mean '" ++ c.toString ++ c.toString ++ "'?") 105
  | .numberTooGreat digits pos =>
    .plain (.syntaxError ("Invalid number '" ++ digits ++ "'") pos) 102
  | .outOfTokens pos => .plain (.syntaxError "Unexpected end of input" pos) 201
  | .wrongToken wanted got pos =>
    .hinted (.syntaxError ("Expected " ++ wanted.name ++ ", got " ++ got.shown) pos)
      "Check your syntax" 202
  | .trailingToken got pos =>
    .hinted (.syntaxError ("Unexpected trailing token " ++ got.shown) pos)
      "A snippet holds a single expression" 203
  | .noOperand got pos =>
    .hinted (.syntaxError ("Unexpected token " ++ got.shown) pos)
      "Expected a value, path, or '('" 204
  | .noSegment got pos =>
    .hinted (.syntaxError ("Expected a path segment, got " ++ got.shown) pos)
      "Use get(\"key\") for keys that are not plain words" 205
  | .wrongType wanted got =>
    .hinted
      (.typeError ("Expected " ++ wanted.name ++ ", got " ++ got.kind.name ++ " " ++ got.render))
      ("Store a " ++ wanted.name ++ " value at this path") wanted.code
  | .outOfRange .word16 n =>
    .hinted (.typeError ("Number " ++ Decimal.writeInt64 n ++ " out of range for u16"))
      "Use a number between 0 and 65535" 405
  | .outOfRange .size n =>
    .hinted (.typeError ("Number " ++ Decimal.writeInt64 n ++ " out of range for usize"))
      "Use a non-negative number" 406
  | .incomparable left right =>
    .hinted (.typeError ("Cannot compare " ++ left.name ++ " with " ++ right.name))
      "Comparisons need two numbers or two strings" 409
  | .badOperand kind operator =>
    .plain (.typeError ("Unsupported operand " ++ kind.name ++ " for '" ++ operator ++ "'")) 410
  | .unknownFunction name =>
    .hinted (.runtimeError ("Unknown function '" ++ name ++ "'"))
      "Available: len, upper, lower, trim, str, int, float, has, get, default" 501
  | .divisionByZero => .plain (.runtimeError "division by zero") 502
  | .remainderByZero => .plain (.runtimeError "modulo by zero") 502
  | .tooDeep limit text =>
    .hinted
      (.runtimeError
        ("expression nesting exceeds " ++ Decimal.writeNat limit ++ " levels at '" ++ text ++ "'"))
      "Check for values that reference themselves" 503
  | .keepsExpanding text =>
    .plain (.runtimeError ("references in '" ++ text ++ "' keep expanding")) 504
  | .wrongArgumentCount name wanted got =>
    .plain
      (.runtimeError (name ++ "() expects " ++ Decimal.writeNat wanted ++ " argument(s), got " ++
        Decimal.writeNat got)) 505
  | .negationOverflow => .plain (.runtimeError "integer overflow in negation") 506
  | .quotientOverflow => .plain (.runtimeError "integer overflow in division") 506
  | .overflow left operator right =>
    .plain
      (.runtimeError ("integer overflow in " ++ Decimal.writeInt64 left ++ " " ++ operator ++ " " ++
        Decimal.writeInt64 right)) 506
  | .comparesNaN => .plain (.runtimeError "cannot compare NaN") 507

end PathBag
