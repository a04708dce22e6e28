import PathBag.Bag.Access
import PathBag.Json.Reader
import PathBag.Shape

/-!
# Bags

A bag is a tree together with the way in which its strings are read: as plain data, or as live
texts whose markers are evaluated.  What can be asked of a bag is the same for both.
-/

namespace PathBag

/-- How the strings of a tree are read. -/
inductive Mode where
  | plain | live
  deriving DecidableEq

/-- A tree and the way to read it. -/
structure Bag where
  mode : Mode
  tree : Value

namespace Bag

/-- The bag without data. -/
def empty (mode : Mode) : Bag := ⟨mode, .empty⟩

/-! ### Reading -/

/-- The value at a key, evaluated if the bag is live. -/
def read (b : Bag) : Lookup :=
  match b.mode with
  | .plain => Plain.read b.tree
  | .live => Live.read b.tree

/-- The value at a key as it is stored. -/
def readRaw (b : Bag) : Lookup :=
  match b.mode with
  | .plain => Plain.read b.tree
  | .live => Live.readRaw b.tree

/-- The whole value. -/
def all (b : Bag) : Except Fault Value := b.read ""

/-- The number of children of the value at a key, or of the stored tree for the empty key; a
scalar and a key without value have none. -/
def count (b : Bag) (key : String) : Except Fault Nat :=
  if key.isEmpty then .ok b.tree.size
  else do
    if ← b.read.has key then return (← b.read.getAs key .empty .composite).size
    else return 0

/-- The whole value as JSON. -/
def toJson (b : Bag) (layout : Json.Layout) : Except Fault String :=
  b.all.map (Json.write layout)

/-- The data of the value at a key. -/
def typed (b : Bag) (shape : Shape) (key : String) : Except Fault shape.Carrier := do
  shape.extract (← b.read key)

/-- The data of the value at a key, if there is one. -/
def optional (b : Bag) (shape : Shape) (key : String) : Except Fault (Option shape.Carrier) :=
  match b.read key with
  | .ok v => (shape.extract v).map some
  | .error fault => if fault.isMiss then .ok none else .error fault

/-- The data of the value at a key, or the default if there is none to be had. -/
def typedOr (b : Bag) (shape : Shape) (key : String) (default : shape.Carrier) : shape.Carrier :=
  match b.typed shape key with
  | .ok x => x
  | .error _ => default

/-! ### Writing -/

/-- The bag with a value at a key, in place of what is there or, if `merging`, laid over it. -/
def write (b : Bag) (key : String) (merging : Bool) (v : Value) : Edited Bag :=
  match b.mode with
  | .plain => .done ⟨.plain, Plain.write (Path.ofKey key) merging v b.tree⟩
  | .live => (Live.write (Path.ofKey key) merging v b.tree).map (⟨.live, ·⟩)

/-- The bag with a value at a key in place of what is there. -/
def set (b : Bag) (key : String) (v : Value) : Edited Bag := b.write key false v

/-- The bag with a value laid over what is at a key. -/
def merge (b : Bag) (key : String) (v : Value) : Edited Bag := b.write key true v

/-- The bag with entries laid over it one by one, their names taken as keys. -/
def add (b : Bag) : List (String × Value) → Edited Bag
  | [] => .done b
  | (key, v) :: es => (b.merge key v).andThen (add · es)

/-- The bag with a value at the end of the sequence at a key. -/
def push (b : Bag) (key : String) (v : Value) : Bag :=
  ⟨b.mode, b.tree.alter (Path.ofKey key) (Value.append v)⟩

/-- The bag without the value at a key. -/
def erase (b : Bag) (key : String) : Bag := ⟨b.mode, b.tree.erase (Path.ofKey key)⟩

/-! ### Making bags -/

/-- The bag of entries whose names are keys. -/
def ofEntries (mode : Mode) (es : List (String × Value)) : Except Fault Bag :=
  ((empty mode).add es).toExcept

/-- The bag of a value.  The entries of a mapping are added one by one, a sequence becomes the tree,
and a scalar gives the bag without data. -/
def ofValue (mode : Mode) : Value → Except Fault Bag
  | .mapping es => ofEntries mode es
  | .sequence xs => .ok ⟨mode, .sequence xs⟩
  | _ => .ok (empty mode)

/-- The bag of a JSON document. -/
def ofJson (mode : Mode) (text : String) : Except Fault Bag :=
  match Json.read text with
  | some v => ofValue mode v
  | none => .error .notJson

/-- A plain bag with the composite at a key, or without data if there is none. -/
def detach (b : Bag) (key : String) : Except Fault Bag := do
  ofValue .plain (← b.read.getAs key .empty .composite)

end Bag

end PathBag
