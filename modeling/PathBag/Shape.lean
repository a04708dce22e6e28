import PathBag.Decimal.Float
import PathBag.Fault

/-!
# Typed extraction

The types that a value can be read as.  Reading is exact: an integer out of range, an item of the
wrong kind or a float with places after its point is a fault, and nothing is dropped or changed.
-/

namespace PathBag

/-- A type that values are read as. -/
inductive Shape where
  | text | truth | integer | number
  /-- Integers of 16 bits without sign. -/
  | word16
  /-- Integers of 64 bits without sign. -/
  | size
  | list (items : Shape)
  | table (contents : Shape)
  deriving DecidableEq

namespace Shape

/-- The data of a shape. -/
def Carrier : Shape → Type
  | text => String
  | truth => Bool
  | integer => Int64
  | number => Float
  | word16 => UInt16
  | size => UInt64
  | list s => List s.Carrier
  | table s => List (String × s.Carrier)

/-- The integer of a value: a stored one, or a float without places after its point. -/
def integerOf (v : Value) : Except Fault Int64 :=
  match v with
  | .int n => .ok n
  | .float x =>
    match Decimal.exactInt64? x with
    | some n => .ok n
    | none => .error (.wrongType .integer v)
  | _ => .error (.wrongType .integer v)

/-- The data of a value. -/
def extract : (s : Shape) → Value → Except Fault s.Carrier
  | text, v =>
    match v with
    | .string t => .ok t
    | _ => .error (.wrongType .string v)
  | truth, v =>
    match v with
    | .bool b => .ok b
    | _ => .error (.wrongType .bool v)
  | integer, v => integerOf v
  | number, v =>
    match v with
    | .int n => .ok (Decimal.floatOfInt64 n)
    | .float x => .ok x
    | _ => .error (.wrongType .number v)
  | word16, v => do
    let n ← integerOf v
    if 0 ≤ n.toInt ∧ n.toInt < 2 ^ 16 then .ok (UInt16.ofNat n.toInt.toNat)
    else .error (.outOfRange .word16 n)
  | size, v => do
    let n ← integerOf v
    if 0 ≤ n.toInt then .ok (UInt64.ofNat n.toInt.toNat) else .error (.outOfRange .size n)
  | list s, v =>
    match v with
    | .sequence xs => xs.mapM (extract s)
    | _ => .error (.wrongType .sequence v)
  | table s, v =>
    match v with
    | .mapping es => es.mapM fun (name, w) => do return (name, ← extract s w)
    | _ => .error (.wrongType .mapping v)

/-- The value that holds some data. -/
def embed : (s : Shape) → s.Carrier → Value
  | text, (t : String) => .string t
  | truth, (b : Bool) => .bool b
  | integer, (n : Int64) => .int n
  | number, (x : Float) => .float x
  | word16, (n : UInt16) => .int (Int64.ofNat n.toNat)
  | size, (n : UInt64) => .int (Int64.ofNat n.toNat)
  | list s, (xs : List s.Carrier) => .sequence (xs.map (embed s))
  | table s, (es : List (String × s.Carrier)) =>
    .mapping (es.map fun (name, x) => (name, embed s x))

end Shape

end PathBag
