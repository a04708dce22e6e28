import PathBag.Decimal.Text
import PathBag.Path
import PathBag.Text.Quoted
import PathBag.Value.Basic

/-!
# Tokens and expressions

The tokens of code, how messages show them, and the trees that code is parsed into.
-/

namespace PathBag.Code

/-! ### Tokens -/

/-- A place in a text: lines count from one, columns are the characters since the line began. -/
structure Position where
  line : Nat
  column : Nat
  deriving DecidableEq

/-- The place where a text begins. -/
def Position.origin : Position := ⟨1, 0⟩

/-- The place after one more character. -/
def Position.step (p : Position) (c : Char) : Position :=
  if c = '\n' then ⟨p.line + 1, 0⟩ else ⟨p.line, p.column + 1⟩

/-- The place after more characters. -/
def Position.advance (p : Position) (cs : List Char) : Position := cs.foldl step p

/-- Brackets, separators and operators. -/
inductive Symbol where
  | leftParen | rightParen | leftBracket | rightBracket
  | comma | dot | question | colon | semicolon
  | plus | minus | star | slash | percent | tilde | bang
  | equal | notEqual | less | lessEqual | greater | greaterEqual
  | both | either | coalesce
  deriving DecidableEq

/-- The name of a symbol in messages. -/
def Symbol.name : Symbol → String
  | .leftParen => "LParen"
  | .rightParen => "RParen"
  | .leftBracket => "LBracket"
  | .rightBracket => "RBracket"
  | .comma => "Comma"
  | .dot => "Dot"
  | .question => "Question"
  | .colon => "Colon"
  | .semicolon => "Semicolon"
  | .plus => "Plus"
  | .minus => "Minus"
  | .star => "Star"
  | .slash => "Slash"
  | .percent => "Percent"
  | .tilde => "Tilde"
  | .bang => "Bang"
  | .equal => "EqEq"
  | .notEqual => "NotEq"
  | .less => "Lt"
  | .lessEqual => "Le"
  | .greater => "Gt"
  | .greaterEqual => "Ge"
  | .both => "AndAnd"
  | .either => "OrOr"
  | .coalesce => "Coalesce"

/-- The tokens of code; `stop` is the end of the text. -/
inductive Token where
  | word (name : String)
  | string (s : String)
  | int (n : Int64)
  | float (x : Float)
  | bool (b : Bool)
  | null
  | symbol (s : Symbol)
  | ret
  | stop

/-- Is the token this symbol? -/
def Token.isSymbol (s : Symbol) : Token → Bool
  | .symbol t => t = s
  | _ => false

/-- Is this the end of the text? -/
def Token.isStop : Token → Bool
  | .stop => true
  | _ => false

/-- Floats in messages: whole numbers end in `.0`, and digits stand in place from `0.0001` up to
sixteen places before the point. -/
def tokenFloatStyle : Decimal.FloatStyle where
  positional e := -4 ≤ e && e < 16
  pointZero := true
  plusSign := false
  tie := .up
  nan := "NaN"
  infinity := "inf"
  negInfinity := "-inf"

/-- A token as messages show it. -/
def Token.shown : Token → String
  | .word name => "Ident(" ++ Text.quoted name ++ ")"
  | .string s => "String(" ++ Text.quoted s ++ ")"
  | .int n => "Int(" ++ Decimal.writeInt64 n ++ ")"
  | .float x => "Float(" ++ tokenFloatStyle.write x ++ ")"
  | .bool b => "Bool(" ++ (if b then "true" else "false") ++ ")"
  | .null => "Null"
  | .symbol s => s.name
  | .ret => "Return"
  | .stop => "Eof"

/-! ### Expressions -/

/-- Operators with one operand. -/
inductive UnaryOp where
  | not | negate
  deriving DecidableEq

/-- Operators with two operands. -/
inductive BinaryOp where
  | or | and | coalesce
  | eq | notEq | lt | le | gt | ge
  | add | sub | concat | mul | div | rem
  deriving DecidableEq

/-- An expression. -/
inductive Expr where
  | literal (v : Value)
  | list (items : List Expr)
  | path (segments : Path)
  | unary (op : UnaryOp) (operand : Expr)
  | binary (op : BinaryOp) (left right : Expr)
  | cond (condition yes no : Expr)
  | call (name : String) (arguments : List Expr)
  deriving Inhabited

end PathBag.Code
