import PathBag.Value.Tree

/-!
# Views and handles

A view works on a tree that others work on too, so each of its operations takes the tree as it is
and gives the tree as it is left.  A handle is a place in the tree: it keeps the path and not the
node, so it stays good when the node is written, removed or made anew.
-/

namespace PathBag

/-- A place in a tree. -/
structure Handle where
  path : Path

namespace Handle

/-- The value at the place; null when there is none. -/
def get (h : Handle) (tree : Value) : Value := (tree.node? h.path).getD .null

/-- The tree with a value at the place. -/
def set (h : Handle) (v : Value) (tree : Value) : Value := tree.alter h.path fun _ => v

/-- What an update finds at the place: an empty mapping when there is nothing. -/
def slot (h : Handle) (tree : Value) : Value := (tree.node? h.path).getD .empty

/-- The tree with `f` applied at the place. -/
def update (h : Handle) (f : Value → Value) (tree : Value) : Value := tree.alter h.path f

end Handle

namespace View

/-- A handle on the place of a key, and the tree, in which the default is written there if there
was nothing. -/
def handle (key : String) (default tree : Value) : Handle × Value :=
  let h : Handle := ⟨Path.ofKey key⟩
  match tree.node? h.path with
  | some _ => (h, tree)
  | none => (h, h.set default tree)

/-- The tree with a value at a key. -/
def set (key : String) (v tree : Value) : Value :=
  let (h, tree) := handle key .null tree
  h.set v tree

/-- Is there a value at a key? -/
def has (key : String) (tree : Value) : Bool := (tree.node? (Path.ofKey key)).isSome

/-- The tree without the value at a key. -/
def erase (key : String) (tree : Value) : Value := tree.erase (Path.ofKey key)

/-- The number of children of the value at a key. -/
def count (key : String) (tree : Value) : Nat :=
  match tree.node? (Path.ofKey key) with
  | some v => v.size
  | none => 0

end View

end PathBag
