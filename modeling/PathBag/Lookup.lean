import PathBag.Fault
import PathBag.Value.Coercion

/-!
# Lookups

What can be asked of a reader of keys, whatever it reads from.  A filter is a set of values that can
be asked for by name; a name that is not known fits no value.  A miss turns into a default or into
`false`; every other fault comes through.
-/

namespace PathBag

/-! ### Filters -/

/-- A set of values. -/
inductive Filter where
  | any
  /-- Sequences and mappings. -/
  | composite
  | only (kind : Kind)
  /-- What stands for a number. -/
  | numeric
  /-- What is neither null nor composite. -/
  | scalar
  | unknown (name : String)
  deriving DecidableEq

namespace Filter

/-- The filter of a name, in which the case of ASCII letters does not count. -/
def ofName (name : String) : Filter :=
  match name.map Char.toLower with
  | "mixed" => any
  | "array" | "iterable" | "countable" => composite
  | "list" | "sequence" => only .sequence
  | "mapping" | "map" | "object" | "assoc" => only .mapping
  | "string" => only .string
  | "int" | "integer" | "long" => only .int
  | "float" | "double" => only .float
  | "bool" | "boolean" => only .bool
  | "null" => only .null
  | "numeric" => numeric
  | "scalar" => scalar
  | _ => unknown name

/-- Does a value belong to the set? -/
def admits : Filter → Value → Bool
  | any, _ => true
  | composite, v => v.isComposite
  | only kind, v => v.kind = kind
  | numeric, v => v.number?.isSome
  | scalar, v => !v.isNull && !v.isComposite
  | unknown _, _ => false

end Filter

/-! ### Questions -/

/-- A reader of keys. -/
abbrev Lookup := String → Except Fault Value

namespace Lookup

/-- The value at a key if it is there and the filter admits it, else the default. -/
def getAs (read : Lookup) (key : String) (default : Value) (filter : Filter) :
    Except Fault Value :=
  match read key with
  | .ok v => .ok (if filter.admits v then v else default)
  | .error fault => if fault.isMiss then .ok default else .error fault

/-- The value at a key if it is there, else the default. -/
def get (read : Lookup) (key : String) (default : Value) : Except Fault Value :=
  read.getAs key default .any

/-- Is there a value at a key that the filter admits? -/
def hasAs (read : Lookup) (key : String) (filter : Filter) : Except Fault Bool :=
  match read key with
  | .ok v => .ok (filter.admits v)
  | .error fault => if fault.isMiss then .ok false else .error fault

/-- Is there a value at a key? -/
def has (read : Lookup) (key : String) : Except Fault Bool := read.hasAs key .any

end Lookup

end PathBag
