import PathBag.Code.Language
import PathBag.Code.Lexeme

/-!
# Expressions from lexemes

A snippet is one expression, with an optional `return` in front and an optional `;` behind.  The
operators with two operands come in seven levels, each of which groups to the left; a condition
`c ? a : b` binds loosest.  One lexeme is looked ahead, so the fault of a lexeme shows as soon as
the lexeme before it is taken.
-/

namespace PathBag.Code

/-- What reads a part of a stream: the part and the rest, or the fault that ends it. -/
abbrev Parse (α : Type) := Stream → Except Fault (α × Stream)

namespace Parse

/-- The token ahead. -/
def peek : Stream → Option Token
  | .ok lexeme :: _ => some lexeme.token
  | _ => none

/-- The place where the token ahead ends. -/
def here : Stream → Position
  | .ok lexeme :: _ => lexeme.stop
  | _ => .origin

/-- Takes the token ahead.  The last one stays. -/
def bump : Parse Token
  | [] => .error (.outOfTokens .origin)
  | .error fault :: _ => .error fault
  | [.ok lexeme] => .ok (lexeme.token, [.ok lexeme])
  | .ok _ :: .error fault :: _ => .error fault
  | .ok lexeme :: next :: rest => .ok (lexeme.token, next :: rest)

/-- Takes the token ahead if it is the given symbol, and says whether it was. -/
def eat (s : Symbol) : Parse Bool := fun st =>
  match peek st with
  | some token =>
    if token.isSymbol s then do
      let (_, st) ← bump st
      return (true, st)
    else return (false, st)
  | none => return (false, st)

/-- Takes the given symbol. -/
def expect (s : Symbol) : Parse Unit := fun st => do
  let (token, st) ← bump st
  if token.isSymbol s then return ((), st)
  else .error (.wrongToken s token (here st))

/-- More operands of a level behind `left`, at most `fuel` of them. -/
def chainTail (level : List (Symbol × BinaryOp)) (operand : Parse Expr) :
    (fuel : Nat) → Expr → Parse Expr
  | 0, _, st => .error (.outOfTokens (here st))
  | fuel + 1, left, st =>
    match peek st with
    | some (.symbol s) =>
      match level.lookup s with
      | some op => do
        let (_, st) ← bump st
        let (right, st) ← operand st
        chainTail level operand fuel (.binary op left right) st
      | none => return (left, st)
    | _ => return (left, st)

/-- Operands joined by the operators of a level, grouped to the left. -/
def chain (level : List (Symbol × BinaryOp)) (operand : Parse Expr) : Parse Expr := fun st => do
  let (left, st) ← operand st
  chainTail level operand st.length left st

/-- The operators with two operands, the loosest level first. -/
def levels : List (List (Symbol × BinaryOp)) :=
  [[(.coalesce, .coalesce)],
   [(.either, .or)],
   [(.both, .and)],
   [(.equal, .eq), (.notEqual, .notEq)],
   [(.less, .lt), (.lessEqual, .le), (.greater, .gt), (.greaterEqual, .ge)],
   [(.plus, .add), (.minus, .sub), (.tilde, .concat)],
   [(.star, .mul), (.slash, .div), (.percent, .rem)]]

/-- Chains of the given levels, the last of them over `operand`. -/
def chains (operand : Parse Expr) : List (List (Symbol × BinaryOp)) → Parse Expr
  | [] => operand
  | level :: tighter => chain level (chains operand tighter)

/-- The operator in front of an operand. -/
def unaryOp? : Token → Option UnaryOp
  | .symbol .bang => some .not
  | .symbol .minus => some .negate
  | _ => none

/-- An operand with operators in front of it, at most `fuel` of them. -/
def unary (primary : Parse Expr) : (fuel : Nat) → Parse Expr
  | 0, st => .error (.outOfTokens (here st))
  | fuel + 1, st =>
    match (peek st).bind unaryOp? with
    | some op => do
      let (_, st) ← bump st
      let (operand, st) ← unary primary fuel st
      return (.unary op operand, st)
    | none => primary st

/-- Expressions with commas between them up to a closing symbol, at most `fuel` of them. -/
def argumentsTail (expr : Parse Expr) (close : Symbol) : (fuel : Nat) → Parse (List Expr)
  | 0, st => .error (.outOfTokens (here st))
  | fuel + 1, st => do
    let (item, st) ← expr st
    let (more, st) ← eat .comma st
    if more then
      let (items, st) ← argumentsTail expr close fuel st
      return (item :: items, st)
    else
      let (_, st) ← expect close st
      return ([item], st)

/-- Expressions up to a closing symbol: none, or some with commas between them. -/
def arguments (expr : Parse Expr) (close : Symbol) : Parse (List Expr) := fun st => do
  let (closed, st) ← eat close st
  if closed then return ([], st)
  else argumentsTail expr close st.length st

/-- The text of a token as a segment of a path. -/
def segment? : Token → Option String
  | .word name => some name
  | .string s => some s
  | .int n => some (Decimal.writeInt64 n)
  | .bool b => some (if b then "true" else "false")
  | .null => some "null"
  | .ret => some "return"
  | _ => none

/-- One segment of a path. -/
def segment : Parse String := fun st => do
  let (token, st) ← bump st
  match segment? token with
  | some name => return (name, st)
  | none => .error (.noSegment token (here st))

/-- More segments of a path, at most `fuel` of them. -/
def segments : (fuel : Nat) → Parse Path
  | 0, st => .error (.outOfTokens (here st))
  | fuel + 1, st =>
    match peek st with
    | some (.symbol .dot) => do
      let (_, st) ← bump st
      let (name, st) ← segment st
      let (names, st) ← segments fuel st
      return (name :: names, st)
    | some (.symbol .leftBracket) => do
      let (_, st) ← bump st
      let (name, st) ← segment st
      let (_, st) ← expect .rightBracket st
      let (names, st) ← segments fuel st
      return (name :: names, st)
    | _ => return ([], st)

/-- A literal, a list, a call, a path or an expression in parentheses. -/
def primary (expr : Parse Expr) : Parse Expr := fun st => do
  let (token, st) ← bump st
  match token with
  | .int n => return (.literal (.int n), st)
  | .float x => return (.literal (.float x), st)
  | .string s => return (.literal (.string s), st)
  | .bool b => return (.literal (.bool b), st)
  | .null => return (.literal .null, st)
  | .symbol .leftParen =>
    let (inner, st) ← expr st
    let (_, st) ← expect .rightParen st
    return (inner, st)
  | .symbol .leftBracket =>
    let (items, st) ← arguments expr .rightBracket st
    return (.list items, st)
  | .word name =>
    let (called, st) ← eat .leftParen st
    if called then
      let (items, st) ← arguments expr .rightParen st
      return (.call name items, st)
    else
      let (names, st) ← segments st.length st
      return (.path (name :: names), st)
  | token => .error (.noOperand token (here st))

/-- An expression whose parts are read by `inner`. -/
def exprWith (inner : Parse Expr) : Parse Expr := fun st => do
  let (condition, st) ← chains (fun st => unary (primary inner) st.length st) levels st
  let (asked, st) ← eat .question st
  if asked then
    let (yes, st) ← inner st
    let (_, st) ← expect .colon st
    let (no, st) ← inner st
    return (.cond condition yes no, st)
  else return (condition, st)

/-- An expression in which expressions stand within each other at most `fuel` deep. -/
def expr : (fuel : Nat) → Parse Expr
  | 0, st => .error (.outOfTokens (here st))
  | fuel + 1, st => exprWith (expr fuel) st

/-- A whole snippet.  Each expression within another comes after a lexeme of its own, so the
lexemes bound the depth. -/
def snippet (st : Stream) : Except Fault Expr := do
  let (_, st) ← match peek st with
    | some .ret => bump st
    | _ => .ok (.stop, st)
  let (result, st) ← expr st.length st
  let (_, st) ← eat .semicolon st
  match peek st with
  | some .stop => return result
  | some token => .error (.trailingToken token (here st))
  | none => .error (.outOfTokens (here st))

end Parse

/-- The expression that a text of code holds. -/
def parse (code : String) : Except Fault Expr :=
  match Stream.ofCode code with
  | .error fault :: _ => .error fault
  | st => Parse.snippet st

end PathBag.Code
