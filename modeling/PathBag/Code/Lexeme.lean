import PathBag.Decimal.Text
import PathBag.Fault
import PathBag.Text.Classes

/-!
# Lexemes

Code cut into tokens, each with the place where it ends.  A cursor stands between two characters;
one step passes the blanks and takes one token.  Right after a dot, digits are a segment of a path
and never go on behind a point.
-/

namespace PathBag.Code

/-- What keeps a token from being taken; where, is known to the cursor. -/
inductive Snag where
  | unclosed (quote : Char)
  | stray (c : Char)
  | half (c : Char)
  | tooGreat (digits : List Char)

/-- The fault of a snag between two places. -/
def Snag.fault (start stop : Position) : Snag → Fault
  | unclosed quote => .unclosedString quote start
  | stray c => .strayCharacter c stop
  | half c => .halfOperator c stop
  | tooGreat digits => .numberTooGreat (String.ofList digits) stop

/-- The symbol written by two characters. -/
def pairSymbol? : Char → Char → Option Symbol
  | '?', '?' => some .coalesce
  | '!', '=' => some .notEqual
  | '<', '=' => some .lessEqual
  | '>', '=' => some .greaterEqual
  | '=', '=' => some .equal
  | '&', '&' => some .both
  | '|', '|' => some .either
  | _, _ => none

/-- The symbol written by one character. -/
def charSymbol? : Char → Option Symbol
  | '(' => some .leftParen
  | ')' => some .rightParen
  | '[' => some .leftBracket
  | ']' => some .rightBracket
  | ',' => some .comma
  | '.' => some .dot
  | '?' => some .question
  | ':' => some .colon
  | ';' => some .semicolon
  | '+' => some .plus
  | '-' => some .minus
  | '*' => some .star
  | '/' => some .slash
  | '%' => some .percent
  | '~' => some .tilde
  | '!' => some .bang
  | '<' => some .less
  | '>' => some .greater
  | _ => none

/-- The characters that are a symbol only when they are doubled. -/
def isHalf (c : Char) : Bool := c = '=' || c = '&' || c = '|'

/-- The token of a word: a keyword or a name. -/
def wordToken (name : String) : Token :=
  match name with
  | "true" => .bool true
  | "false" => .bool false
  | "null" => .null
  | "and" => .symbol .both
  | "or" => .symbol .either
  | "not" => .symbol .bang
  | "return" => .ret
  | _ => .word name

/-- The character that an escape in a string stands for. -/
def unescape : Char → Char
  | 'n' => '\n'
  | 't' => '\t'
  | 'r' => '\r'
  | c => c

/-- The content of a string up to its closing quote, if there is one, and what comes after.  The
quote is no backslash. -/
def scanString (quote : Char) : List Char → Option (List Char) × List Char
  | [] => (none, [])
  | '\\' :: c :: cs =>
    let (content, rest) := scanString quote cs
    (content.map (unescape c :: ·), rest)
  | c :: cs =>
    if c = quote then (some [], cs)
    else
      let (content, rest) := scanString quote cs
      (content.map (c :: ·), rest)

/-- A number: an integer, or a decimal with a point between digits where `point` allows one. -/
def scanNumber (point : Bool) (cs : List Char) : Except Snag Token × List Char :=
  let whole := cs.takeWhile Decimal.isDigit
  let rest := cs.dropWhile Decimal.isDigit
  let integer :=
    match Decimal.toInt64? (Nat.ofDigitChars 10 whole 0) with
    | some n => .ok (.int n)
    | none => .error (.tooGreat whole)
  match rest with
  | '.' :: d :: ds =>
    if point && Decimal.isDigit d then
      let places := (d :: ds).takeWhile Decimal.isDigit
      (.ok (.float (Decimal.Scaled.ofParts whole places 0).toFloat),
        (d :: ds).dropWhile Decimal.isDigit)
    else (integer, rest)
  | _ => (integer, rest)

/-- A symbol, or the snag of a character that starts nothing. -/
def scanSymbol (c : Char) (cs : List Char) : Except Snag Token × List Char :=
  match cs.head?.bind (pairSymbol? c) with
  | some s => (.ok (.symbol s), cs.tail)
  | none =>
    match charSymbol? c with
    | some s => (.ok (.symbol s), cs)
    | none => (.error (if isHalf c then .half c else .stray c), cs)

/-- The token that starts with `c`, and what comes after it. -/
def scan (point : Bool) (c : Char) (cs : List Char) : Except Snag Token × List Char :=
  if c = '"' ∨ c = '\'' then
    match scanString c cs with
    | (some content, rest) => (.ok (.string (String.ofList content)), rest)
    | (none, rest) => (.error (.unclosed c), rest)
  else if Decimal.isDigit c then scanNumber point (c :: cs)
  else if Text.isWordStart c then
    (.ok (wordToken (String.ofList (c :: cs.takeWhile Text.isWordPart))),
      cs.dropWhile Text.isWordPart)
  else scanSymbol c cs

/-- A place in a text with what comes after it. -/
structure Cursor where
  rest : List Char
  pos : Position
  afterDot : Bool

/-- The cursor in front of a text. -/
def Cursor.start (code : String) : Cursor := ⟨code.toList, .origin, false⟩

/-- Passes the blanks. -/
def Cursor.skipBlanks (k : Cursor) : Cursor :=
  ⟨k.rest.dropWhile Text.isBlank, k.pos.advance (k.rest.takeWhile Text.isBlank), k.afterDot⟩

/-- Moves up to `rest`, which ends the present text. -/
def Cursor.moveTo (k : Cursor) (rest : List Char) : Cursor :=
  ⟨rest, k.pos.advance (k.rest.take (k.rest.length - rest.length)), k.afterDot⟩

/-- Takes one token. -/
def Cursor.next (k : Cursor) : Except Fault Token × Cursor :=
  let start := k.skipBlanks
  match start.rest with
  | [] => (.ok .stop, ⟨[], start.pos, false⟩)
  | c :: cs =>
    let (result, rest) := scan (!k.afterDot) c cs
    let stop := start.moveTo rest
    match result with
    | .ok token => (.ok token, ⟨stop.rest, stop.pos, token.isSymbol .dot⟩)
    | .error snag => (.error (snag.fault start.pos stop.pos), stop)

/-- A token and the place where it ends. -/
structure Lexeme where
  token : Token
  stop : Position

/-- Lexemes up to the end of the text, or up to the fault that ends them. -/
abbrev Stream := List (Except Fault Lexeme)

/-- The lexemes after a cursor, at most `fuel` of them. -/
def Cursor.lexemes : (fuel : Nat) → Cursor → Stream
  | 0, _ => []
  | fuel + 1, k =>
    match k.next with
    | (.error fault, _) => [.error fault]
    | (.ok token, k) =>
      .ok ⟨token, k.pos⟩ :: if token.isStop then [] else k.lexemes fuel

/-- The lexemes of a text.  Every token but the last takes a character, so there is at most one
more of them than there are characters. -/
def Stream.ofCode (code : String) : Stream :=
  (Cursor.start code).lexemes (code.toList.length + 1)

end PathBag.Code
