/-!
# Values

The data of a bag: scalars, sequences, and mappings whose entries keep the order in which their
names first came.  The first entry of a name answers for it; every operation on entries keeps names
distinct.
-/

namespace PathBag

/-! ### Entries -/

/-- Names with their contents, in order. -/
abbrev Entries (α : Type) := List (String × α)

namespace Entries

variable {α : Type}

/-- What stands under a name. -/
def find? (name : String) : Entries α → Option α
  | [] => none
  | (n, x) :: es => if n = name then some x else find? name es

/-- Applies `f` to what stands under a name, or to `fill` in a new last entry. -/
def upsert (name : String) (fill : α) (f : α → α) : Entries α → Entries α
  | [] => [(name, f fill)]
  | (n, x) :: es => if n = name then (n, f x) :: es else (n, x) :: upsert name fill f es

/-- Puts `x` under a name, in place or as a new last entry. -/
def insert (name : String) (x : α) (es : Entries α) : Entries α := es.upsert name x fun _ => x

/-- The entries without those of a name. -/
def erase (name : String) (es : Entries α) : Entries α := es.filter (·.1 ≠ name)

/-- The names in order. -/
def names (es : Entries α) : List String := es.map (·.1)

@[simp] theorem find?_nil (name : String) : find? name ([] : Entries α) = none := rfl

@[simp] theorem find?_upsert_self (name : String) (fill : α) (f : α → α) (es : Entries α) :
    find? name (upsert name fill f es) = some (f ((find? name es).getD fill)) := by
  induction es with
  | nil => simp [upsert, find?]
  | cons e es ih => by_cases h : e.1 = name <;> simp [upsert, find?, h, ih]

theorem find?_upsert_of_ne {name other : String} (h : other ≠ name) (fill : α) (f : α → α)
    (es : Entries α) : find? other (upsert name fill f es) = find? other es := by
  induction es with
  | nil => simp [upsert, find?, Ne.symm h]
  | cons e es ih =>
    by_cases hn : e.1 = name
    · have : e.1 ≠ other := fun ho => h (ho ▸ hn)
      simp [upsert, find?, hn, Ne.symm h]
    · simp [upsert, find?, hn, ih]

@[simp] theorem find?_insert_self (name : String) (x : α) (es : Entries α) :
    find? name (insert name x es) = some x := by simp [insert]

theorem find?_insert_of_ne {name other : String} (h : other ≠ name) (x : α) (es : Entries α) :
    find? other (insert name x es) = find? other es := find?_upsert_of_ne h x _ es

@[simp] theorem find?_erase_self (name : String) (es : Entries α) :
    find? name (erase name es) = none := by
  induction es with
  | nil => rfl
  | cons e es ih => by_cases h : e.1 = name <;> simp_all [erase, find?]

theorem find?_erase_of_ne {name other : String} (h : other ≠ name) (es : Entries α) :
    find? other (erase name es) = find? other es := by
  induction es with
  | nil => rfl
  | cons e es ih =>
    by_cases hn : e.1 = name
    · simp_all [erase, find?, Ne.symm h]
    · simp_all [erase, find?]

/-- Entries from pairs: the last content of a name counts, in the place of the first. -/
def ofList (pairs : List (String × α)) : Entries α :=
  pairs.foldl (fun es (name, x) => insert name x es) []

end Entries

/-! ### Values -/

/-- A node of a tree together with everything below it. -/
inductive Value where
  | null
  | bool (b : Bool)
  | int (n : Int64)
  | float (x : Float)
  | string (s : String)
  | sequence (items : List Value)
  | mapping (entries : List (String × Value))
  deriving Inhabited

/-- The kinds of values. -/
inductive Kind where
  | null | bool | int | float | string | sequence | mapping
  deriving DecidableEq, Repr

/-- The name of a kind in messages. -/
def Kind.name : Kind → String
  | .null => "null"
  | .bool => "bool"
  | .int => "int"
  | .float => "float"
  | .string => "string"
  | .sequence => "sequence"
  | .mapping => "mapping"

namespace Value

/-- The mapping without entries. -/
def empty : Value := .mapping []

/-- The kind of a value. -/
def kind : Value → Kind
  | null => .null
  | bool _ => .bool
  | int _ => .int
  | float _ => .float
  | string _ => .string
  | sequence _ => .sequence
  | mapping _ => .mapping

/-- Sequences and mappings are composite. -/
def isComposite : Value → Bool
  | sequence _ | mapping _ => true
  | _ => false

/-- Is this null? -/
def isNull : Value → Bool
  | null => true
  | _ => false

/-- The text of a string. -/
def text? : Value → Option String
  | string s => some s
  | _ => none

/-- The entries of a mapping. -/
def entries? : Value → Option (Entries Value)
  | mapping es => some es
  | _ => none

/-- The number of children; scalars have none. -/
def size : Value → Nat
  | sequence xs => xs.length
  | mapping es => es.length
  | _ => 0

/-- Is there no child? -/
def isEmpty (v : Value) : Bool := v.size == 0

/-- Null, false, zero, the texts `""` and `"0"`, and empty composites are false; all else is
true, a NaN too. -/
def isTruthy : Value → Bool
  | null => false
  | bool b => b
  | int n => n != 0
  | float x => !(x == 0.0)
  | string s => s != "" && s != "0"
  | sequence xs => !xs.isEmpty
  | mapping es => !es.isEmpty

end Value

end PathBag
