import PathBag.Decimal.Text
import PathBag.Path
import PathBag.Value.Basic

/-!
# Nodes and paths

Reading and editing a tree along a path.  A mapping names its children by its entries, a sequence
by their positions in canonical decimals.  Editing makes the nodes that are missing: a scalar on
the way gives way to a mapping, a sequence grows at its end, and a sequence that is asked for any
other name becomes the mapping of its positions.

One value is merged over another in depth.  Mappings merge entry by entry, sequences are joined, a
mapping over a sequence takes the positions as names, and a sequence over a mapping adds its items
under fresh positions.  A scalar on either side, or nothing below, lets the upper value through as
it is.
-/

namespace PathBag.Value

/-- The position below `bound` that a segment names. -/
def position? (segment : String) (bound : Nat) : Option Nat :=
  (Decimal.readNat segment.toList).filter fun i => i < bound && Decimal.writeNat i == segment

/-- The child that a segment names. -/
def child? (segment : String) : Value → Option Value
  | mapping es => Entries.find? segment es
  | sequence xs => (position? segment xs.length).bind (xs[·]?)
  | _ => none

/-- The node at a path. -/
def node? : Path → Value → Option Value
  | [], v => some v
  | segment :: path, v => (v.child? segment).bind (node? path)

/-- Items named by their positions, the first of which is `start`. -/
def indexedFrom (start : Nat) : List Value → Entries Value
  | [] => []
  | x :: xs => (Decimal.writeNat start, x) :: indexedFrom (start + 1) xs

/-- Items named by their positions. -/
def indexed (xs : List Value) : Entries Value := indexedFrom 0 xs

/-- A sequence as the mapping of its positions; any other value as it is. -/
def promote : Value → Value
  | sequence xs => mapping (indexed xs)
  | v => v

/-- Applies `f` to the child that a segment names, or to `fill` in its place when it is missing. -/
def alterChild (v : Value) (segment : String) (fill : Value) (f : Value → Value) : Value :=
  match v with
  | mapping es => mapping (Entries.upsert segment fill f es)
  | sequence xs =>
    match position? segment (xs.length + 1) with
    | some i => sequence (if i < xs.length then xs.modify i f else xs ++ [f fill])
    | none => mapping (Entries.upsert segment fill f (indexed xs))
  | _ => mapping [(segment, f fill)]

/-- Applies `f` to the node at a path; nodes that are missing are made as empty mappings. -/
def alter : Path → (Value → Value) → Value → Value
  | [], f, v => f v
  | segment :: path, f, v => v.alterChild segment empty (alter path f)

@[simp] theorem node?_nil (v : Value) : v.node? [] = some v := rfl

theorem node?_cons (segment : String) (path : Path) (v : Value) :
    v.node? (segment :: path) = (v.child? segment).bind (node? path) := rfl

@[simp] theorem alter_nil (f : Value → Value) (v : Value) : v.alter [] f = f v := rfl

theorem alter_cons (segment : String) (path : Path) (f : Value → Value) (v : Value) :
    v.alter (segment :: path) f = v.alterChild segment empty (alter path f) := rfl

/-- A value without the child that a segment names. -/
def eraseChild (segment : String) : Value → Value
  | mapping es => mapping (Entries.erase segment es)
  | sequence xs =>
    match position? segment xs.length with
    | some i => sequence (xs.eraseIdx i)
    | none => sequence xs
  | v => v

/-- The tree without the node at a path.  The root stays, and so does a tree in which the parent
of the node is missing. -/
def erase : Path → Value → Value
  | [], v => v
  | [segment], v => v.eraseChild segment
  | segment :: path, v =>
    match v.child? segment with
    | some _ => v.alterChild segment empty (erase path)
    | none => v

/-- A sequence with `x` at its end; any other value gives way to the sequence of `x` alone. -/
def append (x : Value) : Value → Value
  | sequence xs => sequence (xs ++ [x])
  | _ => sequence [x]

/-! ### Merging -/

/-- Positions lie below this bound. -/
def positionBound : Nat := Nat.pow 2 64

/-- The position that a name reads as, canonical or not. -/
def readPosition (name : String) : Option Nat :=
  (Decimal.readNat name.toList).filter (· < positionBound)

/-- A name for one more item: one past the greatest position among the names, and if there is no
such position the least that is not in use. -/
def freshName (es : Entries Value) : String :=
  match (es.names.filterMap readPosition).max? with
  | none => "0"
  | some top =>
    if top + 1 < positionBound then Decimal.writeNat (top + 1)
    else
      (((List.range (es.length + 1)).map Decimal.writeNat).find? (· ∉ es.names)).getD
        (Decimal.writeNat es.length)

/-- Entries with items added one by one under fresh names. -/
def addItems (es : Entries Value) : List Value → Entries Value
  | [] => es
  | x :: xs => addItems (es.insert (freshName es) x) xs

mutual

/-- The value that results when `upper` is laid over `base`. -/
def merge (base : Value) : (upper : Value) → Value
  | mapping es =>
    match base.promote with
    | mapping (b :: bs) => mapping (mergeEntries (b :: bs) es)
    | _ => mapping es
  | sequence xs =>
    match base with
    | sequence ys => sequence (ys ++ xs)
    | mapping (b :: bs) => mapping (addItems (b :: bs) xs)
    | _ => sequence xs
  | upper => upper

/-- The entries that result when entries are laid over `base`. -/
def mergeEntries (base : Entries Value) : List (String × Value) → Entries Value
  | [] => base
  | (name, v) :: es =>
    mergeEntries
      (base.insert name (match base.find? name with
        | some x => merge x v
        | none => v))
      es

end

end PathBag.Value
