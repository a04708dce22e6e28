/-!
# Paths and keys

A path is the list of the segments that lead from the root of a tree to a node.  A key is the text
of a path, in one of two notations without escapes:

* dotted, `a.b.c`;
* bracketed, `a[b][c]`, where dots are ordinary characters.

A key with a `[` is bracketed, and its `]` are dropped wherever they stand.  The empty key is the
root.
-/

namespace PathBag

/-- The segments from the root to a node. -/
abbrev Path := List String

/-- The parts of a text between the occurrences of `sep`. -/
def splitAt (sep : Char) : List Char → List (List Char)
  | [] => [[]]
  | c :: cs =>
    if c = sep then [] :: splitAt sep cs
    else
      match splitAt sep cs with
      | part :: parts => (c :: part) :: parts
      | [] => [[c]]

namespace Path

/-- The path that a key names. -/
def ofKey (key : String) : Path :=
  let cs := key.toList
  if cs.isEmpty then []
  else if '[' ∈ cs then (splitAt '[' (cs.filter (· ≠ ']'))).map String.ofList
  else (splitAt '.' cs).map String.ofList

/-- The dotted text of a path. -/
def dotted (path : Path) : String := String.intercalate "." path

/-- The bracketed text of a path. -/
def bracketed : Path → String
  | [] => ""
  | first :: rest => first ++ String.join (rest.map fun segment => "[" ++ segment ++ "]")

/-- The key under which code looks a path up: bracketed when a segment holds a dot. -/
def toKey (path : Path) : String :=
  if path.any (·.toList.contains '.') then path.bracketed else path.dotted

end Path

end PathBag
