import PathBag.Code.Language
import PathBag.Value.Basic

/-!
# Faults

A fault is the cause for which an operation stops, with what there is to know about it.
-/

namespace PathBag

/-- What a value was expected to be. -/
inductive Expected where
  | string | bool | integer | number | sequence | mapping
  deriving DecidableEq

/-- Ranges of integers that are narrower than the stored ones. -/
inductive Range where
  | word16 | size
  deriving DecidableEq

/-- Why an operation stopped. -/
inductive Fault where
  /-- A key leads to a segment that is not there. -/
  | noValue (key segment : String)
  /-- A text is no JSON document. -/
  | notJson
  /-- A quote is not closed; the place is the one before it. -/
  | unclosedString (quote : Char) (pos : Code.Position)
  /-- No token starts with this character; the place is the one after it. -/
  | strayCharacter (c : Char) (pos : Code.Position)
  /-- A character that only counts when it is doubled stands alone. -/
  | halfOperator (c : Char) (pos : Code.Position)
  /-- An integer in code is too great. -/
  | numberTooGreat (digits : String) (pos : Code.Position)
  /-- Code ends without an end token. -/
  | outOfTokens (pos : Code.Position)
  /-- One symbol was needed, another token came. -/
  | wrongToken (wanted : Code.Symbol) (got : Code.Token) (pos : Code.Position)
  /-- Something follows a complete snippet. -/
  | trailingToken (got : Code.Token) (pos : Code.Position)
  /-- No operand starts with this token. -/
  | noOperand (got : Code.Token) (pos : Code.Position)
  /-- No segment of a path is written like this token. -/
  | noSegment (got : Code.Token) (pos : Code.Position)
  /-- A value is not of the type asked for. -/
  | wrongType (wanted : Expected) (got : Value)
  /-- An integer does not fit the range asked for. -/
  | outOfRange (range : Range) (n : Int64)
  /-- Two values have no order. -/
  | incomparable (left right : Kind)
  /-- An operator or function does not take this kind. -/
  | badOperand (kind : Kind) (operator : String)
  /-- There is no function of this name. -/
  | unknownFunction (name : String)
  /-- A function takes another number of arguments. -/
  | wrongArgumentCount (name : String) (wanted got : Nat)
  /-- A number is divided by zero. -/
  | divisionByZero
  /-- The quotient of two integers is no 64-bit integer. -/
  | quotientOverflow
  /-- A remainder by zero is asked for. -/
  | remainderByZero
  /-- Evaluation goes deeper than `limit` levels. -/
  | tooDeep (limit : Nat) (text : String)
  /-- References go on to turn up in a text. -/
  | keepsExpanding (text : String)
  /-- The negative of an integer is too great. -/
  | negationOverflow
  /-- The result of an operation on two integers is no 64-bit integer. -/
  | overflow (left : Int64) (operator : String) (right : Int64)
  /-- One side of a comparison is no number. -/
  | comparesNaN

/-- Is this the fault of a key that leads nowhere? -/
def Fault.isMiss : Fault → Bool
  | .noValue _ _ => true
  | _ => false

end PathBag
