import PathBag.Json.Number
import PathBag.Json.Quoted

/-!
# Values from JSON

Strict reading of one JSON document.  Composites nest at most `nestingLimit` deep.  Of equal names
in an object the last content counts, in the place of the first.
-/

namespace PathBag.Json

/-- How deep composites may nest. -/
def nestingLimit : Nat := 127

/-- The blanks of the format. -/
def isSpace (c : Char) : Bool := c = ' ' || c = '\t' || c = '\n' || c = '\r'

/-- The text without the blanks in front. -/
def skipSpace (cs : List Char) : List Char := cs.dropWhile isSpace

/-- What comes after a given word. -/
def after (word : List Char) (cs : List Char) : Option (List Char) :=
  if word.isPrefixOf cs then some (cs.drop word.length) else none

/-- One or more things that `read` reads, commas between them, up to the character that closes
them. -/
def readMany {α : Type} (read : List Char → Option (α × List Char)) (close : Char) :
    Nat → List Char → Option (List α × List Char)
  | 0, _ => none
  | fuel + 1, cs => do
    let (x, cs) ← read cs
    match skipSpace cs with
    | ',' :: cs =>
      let (xs, cs) ← readMany read close fuel cs
      return (x :: xs, cs)
    | c :: cs => if c = close then return ([x], cs) else none
    | [] => none

/-- A name, a colon, and the content that `read` reads. -/
def readEntry (read : List Char → Option (Value × List Char)) (cs : List Char) :
    Option ((String × Value) × List Char) := do
  match skipSpace cs with
  | '"' :: cs =>
    let (name, cs) ← readQuoted cs
    match skipSpace cs with
    | ':' :: cs =>
      let (v, cs) ← read cs
      return ((String.ofList name, v), cs)
    | _ => none
  | _ => none

/-- A sequence after its opening bracket. -/
def readSequence (read : List Char → Option (Value × List Char)) (cs : List Char) :
    Option (Value × List Char) :=
  match skipSpace cs with
  | ']' :: cs => some (.sequence [], cs)
  | cs => (readMany read ']' cs.length cs).map fun (vs, cs) => (.sequence vs, cs)

/-- A mapping after its opening brace. -/
def readMapping (read : List Char → Option (Value × List Char)) (cs : List Char) :
    Option (Value × List Char) :=
  match skipSpace cs with
  | '\x7D' :: cs => some (.mapping [], cs)
  | cs =>
    (readMany (readEntry read) '\x7D' cs.length cs).map fun (es, cs) =>
      (.mapping (Entries.ofList es), cs)

/-- A value that is no composite, after the blanks in front of it. -/
def readScalar : List Char → Option (Value × List Char)
  | 'n' :: cs => (after "ull".toList cs).map fun cs => (.null, cs)
  | 't' :: cs => (after "rue".toList cs).map fun cs => (.bool true, cs)
  | 'f' :: cs => (after "alse".toList cs).map fun cs => (.bool false, cs)
  | '"' :: cs => (readQuoted cs).map fun (s, cs) => (.string (String.ofList s), cs)
  | cs => readNumber cs

/-- A value in which composites nest at most `levels` deep, and what comes after it. -/
def readValue : (levels : Nat) → List Char → Option (Value × List Char)
  | 0, cs => readScalar (skipSpace cs)
  | levels + 1, cs =>
    match skipSpace cs with
    | '[' :: cs => readSequence (readValue levels) cs
    | '\x7B' :: cs => readMapping (readValue levels) cs
    | cs => readScalar cs

/-- The value of a document: one value with nothing but blanks around it. -/
def read (text : String) : Option Value :=
  match readValue nestingLimit text.toList with
  | some (v, rest) => if (skipSpace rest).isEmpty then some v else none
  | none => none

end PathBag.Json
