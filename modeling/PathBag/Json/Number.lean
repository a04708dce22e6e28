import PathBag.Decimal.Text
import PathBag.Value.Basic

/-!
# JSON numbers

A number without point and exponent is an integer when it fits into 64 bits; any other number is a
float, and must be finite.  `-0` is the negative zero.

A float is made in two steps.  First the digits are gathered into a significand of 64 bits: the
first digit that does not fit, and those after it on the same side of the point, only count for the
scale.  Then the significand is rounded to a float and multiplied or divided by a power of ten, so
the result is near the number that is written and need not be the nearest float to it.
-/

namespace PathBag.Json

/-! ### The parts of a number -/

/-- The digits before the point: a single zero, or digits that do not start with one. -/
def readWhole : List Char → Option (List Char × List Char)
  | '0' :: cs => some (['0'], cs)
  | cs =>
    match cs.takeWhile Decimal.isDigit with
    | [] => none
    | ds => some (ds, cs.dropWhile Decimal.isDigit)

/-- The digits after the point, if there is one. -/
def readPlaces : List Char → Option (Option (List Char) × List Char)
  | '.' :: cs =>
    match cs.takeWhile Decimal.isDigit with
    | [] => none
    | ds => some (some ds, cs.dropWhile Decimal.isDigit)
  | cs => some (none, cs)

/-- The exponent, if there is one. -/
def readExponent : List Char → Option (Option Int × List Char)
  | [] => some (none, [])
  | c :: cs =>
    if c = 'e' ∨ c = 'E' then
      let (negative, cs) := Decimal.takeSign cs
      match cs.takeWhile Decimal.isDigit with
      | [] => none
      | ds =>
        let n : Int := Nat.ofDigitChars 10 ds 0
        some (some (if negative then -n else n), cs.dropWhile Decimal.isDigit)
    else some (none, c :: cs)

/-! ### Floats -/

/-- Significands lie below this bound. -/
def significandBound : Nat := Nat.pow 2 64

/-- Digits behind those of `n`, as long as the number that they form stays a significand, and the
digits that are left. -/
def gather (n : Nat) : List Char → Nat × List Char
  | [] => (n, [])
  | d :: ds =>
    if Nat.ofDigitChars 10 [d] n < significandBound then gather (Nat.ofDigitChars 10 [d] n) ds
    else (n, d :: ds)

/-- The significand of a number and the power of ten that scales it. -/
def significand (whole places : List Char) (exponent : Int) : Decimal.Scaled :=
  let (n, dropped) := gather 0 whole
  let (m, left) := gather n places
  ⟨m, exponent + dropped.length - (places.length - left.length)⟩

/-- The float nearest to a power of ten; `308` is the greatest exponent of a finite one. -/
def power (e : Nat) : Float := Float.ofScientific 1 false e

/-- A significand that is scaled up, an infinity beyond the floats. -/
def scaleUp (x : Float) (e : Nat) : Float :=
  if x == 0.0 then x
  else if e ≤ 308 then x * power e
  else Float.ofBits 0x7FF0000000000000

/-- A significand that is scaled down, by the greatest power first.  After two steps of that nothing
is left of 64 bits. -/
def scaleDown (x : Float) (e : Nat) : Float :=
  if e ≤ 308 then x / power e
  else if e ≤ 616 then x / power 308 / power (e - 308)
  else 0.0

/-- The float of a significand and its scale. -/
def scaledFloat (s : Decimal.Scaled) : Float :=
  let x := Float.ofScientific s.digits false 0
  if s.exponent < 0 then scaleDown x s.exponent.natAbs else scaleUp x s.exponent.natAbs

/-! ### Numbers -/

/-- The integer of a number without point and exponent, if it is one. -/
def integer? (negative : Bool) (whole : List Char) : Option Int64 :=
  let n := Nat.ofDigitChars 10 whole 0
  if negative then if n = 0 then none else Decimal.toInt64? (-(n : Int))
  else Decimal.toInt64? n

/-- The float of a number, if it is finite. -/
def float? (negative : Bool) (whole places : List Char) (exponent : Int) : Option Float :=
  let x := scaledFloat (significand whole places exponent)
  if Decimal.isFinite x then some (if negative then -x else x) else none

/-- The value of a number of the given parts. -/
def numberValue (negative : Bool) (whole : List Char) (places : Option (List Char))
    (exponent : Option Int) : Option Value :=
  let integer :=
    match places, exponent with
    | none, none => integer? negative whole
    | _, _ => none
  match integer with
  | some n => some (.int n)
  | none => (float? negative whole (places.getD []) (exponent.getD 0)).map .float

/-- A number and what comes after it. -/
def readNumber (cs : List Char) : Option (Value × List Char) := do
  let (negative, cs) := match cs with
    | '-' :: cs => (true, cs)
    | cs => (false, cs)
  let (whole, cs) ← readWhole cs
  let (places, cs) ← readPlaces cs
  let (exponent, cs) ← readExponent cs
  return (← numberValue negative whole places exponent, cs)

end PathBag.Json
