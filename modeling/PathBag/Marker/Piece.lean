import PathBag.Text.Classes

/-!
# Markers in text

A stored text may hold markers of three forms:

* a reference, `${key}`, where the key holds no brace;
* a placeholder, `{{ key }}` or `{{ key|default(literal) }}`, with one blank inside each pair of
  braces;
* code, `{% code %}`, with one blank inside each percent sign.

A body has at least one character.  A text is cut into pieces, from left to right: where a marker
of the form in question starts, the shortest such marker is one piece, and every other character is
a piece of its own.
-/

namespace PathBag.Marker

/-- The forms of markers. -/
inductive Form where
  | reference | placeholder | code
  deriving DecidableEq

/-- A piece of a text: a plain character, or the body of a marker. -/
inductive Piece where
  | plain (c : Char)
  | marker (body : List Char)
  deriving DecidableEq

/-- Is the piece a marker? -/
def Piece.isMarker : Piece → Bool
  | plain _ => false
  | marker _ => true

/-- A brace. -/
def isBrace (c : Char) : Bool := c = '\x7B' || c = '\x7D'

/-- The body of the reference at the front of a text, and what comes after it. -/
def takeReference : List Char → Option (List Char × List Char)
  | '$' :: '\x7B' :: cs =>
    match cs.takeWhile (!isBrace ·), cs.dropWhile (!isBrace ·) with
    | b :: body, '\x7D' :: rest => some (b :: body, rest)
    | _, _ => none
  | _ => none

/-- What comes after a blank, the character `mark` and a closing brace at the front of a text. -/
def takeClose (mark : Char) : List Char → Option (List Char)
  | w :: m :: '\x7D' :: rest => if Text.isBlank w ∧ m = mark then some rest else none
  | _ => none

/-- The characters up to the first close, and what comes after it. -/
def takeBody (mark : Char) : List Char → Option (List Char × List Char)
  | [] => none
  | c :: cs =>
    match takeClose mark (c :: cs) with
    | some rest => some ([], rest)
    | none => (takeBody mark cs).map fun (body, rest) => (c :: body, rest)

/-- The body of the marker at the front of a text that opens with a brace, `first` and a blank and
closes with a blank, `last` and a brace.  It has at least one character. -/
def takeSpaced (first last : Char) : List Char → Option (List Char × List Char)
  | '\x7B' :: m :: w :: c :: cs =>
    if m = first ∧ Text.isBlank w then
      (takeBody last cs).map fun (body, rest) => (c :: body, rest)
    else none
  | _ => none

/-- The body of the marker of a form at the front of a text, and what comes after it. -/
def Form.take : Form → List Char → Option (List Char × List Char)
  | reference => takeReference
  | placeholder => takeSpaced '\x7B' '\x7D'
  | code => takeSpaced '%' '%'

/-- The pieces of a text after its first `skip` characters, which belong to a marker that is
already cut. -/
def Form.cut (form : Form) : (skip : Nat) → List Char → List Piece
  | _, [] => []
  | skip + 1, _ :: cs => form.cut skip cs
  | 0, c :: cs =>
    match form.take (c :: cs) with
    | some (body, rest) => .marker body :: form.cut (cs.length - rest.length) cs
    | none => .plain c :: form.cut 0 cs

/-- The pieces of a text. -/
def Form.pieces (form : Form) (cs : List Char) : List Piece := form.cut 0 cs

/-- Does a text hold a marker of the form? -/
def Form.occursIn (form : Form) (cs : List Char) : Bool := (form.pieces cs).any Piece.isMarker

/-- Does a text hold a marker of any form? -/
def isExpression (text : String) : Bool :=
  Form.reference.occursIn text.toList || Form.placeholder.occursIn text.toList ||
    Form.code.occursIn text.toList

end PathBag.Marker
