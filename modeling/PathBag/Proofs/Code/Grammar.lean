import PathBag.Code.Language

/-!
# The grammar of code

The token lists that are snippets of code, each with its tree:

    snippet    ::=  return?  expression  ;?
    expression ::=  chain  |  chain ? expression : expression
    operand    ::=  ! operand  |  - operand  |  primary
    primary    ::=  literal  |  ( expression )  |  [ arguments ]
                 |  name ( arguments )  |  name segments
    arguments  ::=  nothing  |  items
    items      ::=  expression  |  expression , items
    segments   ::=  nothing  |  . segment segments  |  [ segment ] segments

A chain is operands joined by operators with two operands.  Each level of operators groups to the
left, over chains of the tighter levels.
-/

namespace PathBag.Code

/-- The operators with two operands, the loosest level first. -/
def BinaryOp.levels : List (List BinaryOp) :=
  [[.coalesce], [.or], [.and], [.eq, .notEq], [.lt, .le, .gt, .ge], [.add, .sub, .concat],
    [.mul, .div, .rem]]

/-- The symbol of an operator with two operands. -/
def BinaryOp.symbol : BinaryOp → Symbol
  | .coalesce => .coalesce
  | .or => .either
  | .and => .both
  | .eq => .equal
  | .notEq => .notEqual
  | .lt => .less
  | .le => .lessEqual
  | .gt => .greater
  | .ge => .greaterEqual
  | .add => .plus
  | .sub => .minus
  | .concat => .tilde
  | .mul => .star
  | .div => .slash
  | .rem => .percent

/-- The symbol of an operator with one operand. -/
def UnaryOp.symbol : UnaryOp → Symbol
  | .not => .bang
  | .negate => .minus

namespace Grammar

/-- A literal and its value. -/
inductive Literal : Token → Value → Prop
  | int (n : Int64) : Literal (.int n) (.int n)
  | float (x : Float) : Literal (.float x) (.float x)
  | string (s : String) : Literal (.string s) (.string s)
  | bool (b : Bool) : Literal (.bool b) (.bool b)
  | null : Literal .null .null

/-- A token as a segment of a path. -/
inductive Segment : Token → String → Prop
  | word (name : String) : Segment (.word name) name
  | string (s : String) : Segment (.string s) s
  | int (n : Int64) : Segment (.int n) (Decimal.writeInt64 n)
  | true : Segment (.bool true) "true"
  | false : Segment (.bool false) "false"
  | null : Segment .null "null"
  | ret : Segment .ret "return"

/-- The segments of a path behind its first name. -/
inductive Segments : List Token → Path → Prop
  | none : Segments [] []
  | dotted {t : Token} {name : String} {ts : List Token} {names : Path} :
      Segment t name → Segments ts names → Segments (.symbol .dot :: t :: ts) (name :: names)
  | bracketed {t : Token} {name : String} {ts : List Token} {names : Path} :
      Segment t name → Segments ts names →
      Segments (.symbol .leftBracket :: t :: .symbol .rightBracket :: ts) (name :: names)

mutual

/-- A chain, or a condition with its two branches. -/
inductive Expression : List Token → Expr → Prop
  | chain {ts : List Token} {e : Expr} : Chain BinaryOp.levels ts e → Expression ts e
  | cond {ts us vs : List Token} {condition yes no : Expr} :
      Chain BinaryOp.levels ts condition → Expression us yes → Expression vs no →
      Expression (ts ++ .symbol .question :: us ++ .symbol .colon :: vs) (.cond condition yes no)

/-- Operands joined by operators of the given levels. -/
inductive Chain : List (List BinaryOp) → List Token → Expr → Prop
  | operand {ts : List Token} {e : Expr} : Operand ts e → Chain [] ts e
  | tighter {ops : List BinaryOp} {levels : List (List BinaryOp)} {ts : List Token} {e : Expr} :
      Chain levels ts e → Chain (ops :: levels) ts e
  | binary {ops : List BinaryOp} {levels : List (List BinaryOp)} {op : BinaryOp}
      {ts us : List Token} {left right : Expr} :
      op ∈ ops → Chain (ops :: levels) ts left → Chain levels us right →
      Chain (ops :: levels) (ts ++ .symbol op.symbol :: us) (.binary op left right)

/-- A primary with operators in front of it. -/
inductive Operand : List Token → Expr → Prop
  | unary {op : UnaryOp} {ts : List Token} {e : Expr} :
      Operand ts e → Operand (.symbol op.symbol :: ts) (.unary op e)
  | primary {ts : List Token} {e : Expr} : Primary ts e → Operand ts e

/-- A literal, an expression in parentheses, a list, a call or a path. -/
inductive Primary : List Token → Expr → Prop
  | literal {t : Token} {v : Value} : Literal t v → Primary [t] (.literal v)
  | parens {ts : List Token} {e : Expr} : Expression ts e →
      Primary (.symbol .leftParen :: ts ++ [.symbol .rightParen]) e
  | list {ts : List Token} {items : List Expr} : Arguments ts items →
      Primary (.symbol .leftBracket :: ts ++ [.symbol .rightBracket]) (.list items)
  | call {name : String} {ts : List Token} {items : List Expr} : Arguments ts items →
      Primary (.word name :: .symbol .leftParen :: ts ++ [.symbol .rightParen]) (.call name items)
  | path {name : String} {ts : List Token} {names : Path} : Segments ts names →
      Primary (.word name :: ts) (.path (name :: names))

/-- No expressions, or some. -/
inductive Arguments : List Token → List Expr → Prop
  | none : Arguments [] []
  | some {ts : List Token} {items : List Expr} : Items ts items → Arguments ts items

/-- Expressions with commas between them. -/
inductive Items : List Token → List Expr → Prop
  | last {ts : List Token} {e : Expr} : Expression ts e → Items ts [e]
  | more {ts us : List Token} {e : Expr} {items : List Expr} : Expression ts e → Items us items →
      Items (ts ++ .symbol .comma :: us) (e :: items)

end

/-- A token that may be left out. -/
inductive Optional (t : Token) : List Token → Prop
  | absent : Optional t []
  | present : Optional t [t]

/-- One expression, with an optional `return` in front and an optional `;` behind. -/
inductive Snippet : List Token → Expr → Prop
  | intro {before ts after : List Token} {e : Expr} : Optional .ret before → Expression ts e →
      Optional (.symbol .semicolon) after → Snippet (before ++ ts ++ after) e

end Grammar

end PathBag.Code
