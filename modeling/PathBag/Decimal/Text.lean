import PathBag.Decimal.Float

/-!
# Numbers as text

Reading and writing numbers in decimal.

* Naturals and 64-bit integers: reading allows a sign in front and zeros before the first digit, so
  a number has many texts; writing gives the shortest one, which is called canonical.
* Floats: how one is laid out is a record (`FloatStyle`), which says which exponents are written in
  place, whether a whole number ends in `.0`, how the exponent is signed, which way ties go, and the
  texts of the values that are no numbers.  The texts that are read are `digits`, `digits.`,
  `digits.digits` and `.digits`, each with an optional sign in front and an optional exponent
  behind.
-/

namespace PathBag.Decimal

/-! ### Integers -/

/-- An ASCII digit. -/
def isDigit (c : Char) : Bool := '0' ≤ c && c ≤ '9'

/-- The natural written by one or more digits. -/
def readDigits (cs : List Char) : Option Nat :=
  if !cs.isEmpty && cs.all isDigit then some (Nat.ofDigitChars 10 cs 0) else none

/-- The natural written by digits with an optional `+` in front. -/
def readNat (cs : List Char) : Option Nat :=
  match cs with
  | '+' :: ds => readDigits ds
  | ds => readDigits ds

/-- The integer written by digits with an optional sign in front. -/
def readInt (cs : List Char) : Option Int :=
  match cs with
  | '-' :: ds => (readDigits ds).map fun n => -(n : Int)
  | ds => (readNat ds).map fun n => (n : Int)

/-- The 64-bit integer of a number in range. -/
def toInt64? (n : Int) : Option Int64 :=
  if Int64.minValue.toInt ≤ n ∧ n ≤ Int64.maxValue.toInt then some (Int64.ofInt n) else none

/-- The 64-bit integer written by digits with an optional sign in front. -/
def readInt64 (cs : List Char) : Option Int64 := (readInt cs).bind toInt64?

/-- The canonical text of a natural. -/
def writeNat (n : Nat) : String := String.ofList (Nat.toDigits 10 n)

/-- The canonical text of an integer. -/
def writeInt (n : Int) : String :=
  if n < 0 then String.ofList ('-' :: Nat.toDigits 10 n.natAbs) else writeNat n.natAbs

/-- The canonical text of a 64-bit integer. -/
def writeInt64 (n : Int64) : String := writeInt n.toInt

/-! ### Writing floats -/

/-- The decisions of a float format. -/
structure FloatStyle where
  /-- Is a number whose first digit has this exponent written without an exponent? -/
  positional : Int → Bool
  /-- Do whole numbers written in place end in `.0`? -/
  pointZero : Bool
  /-- Is a positive exponent written with `+`? -/
  plusSign : Bool
  tie : Tie
  nan : String
  infinity : String
  negInfinity : String

/-- Digits with the point after the first `point` of them, filled up with zeros on either side. -/
def placePoint (pointZero : Bool) (ds : List Char) (point : Int) : List Char :=
  if point ≤ 0 then '0' :: '.' :: List.replicate (-point).toNat '0' ++ ds
  else if ds.length ≤ point.toNat then
    ds ++ List.replicate (point.toNat - ds.length) '0' ++ (if pointZero then ['.', '0'] else [])
  else ds.take point.toNat ++ '.' :: ds.drop point.toNat

/-- Digits in scientific form: one before the point, the exponent of that one at the end. -/
def placeExponent (plusSign : Bool) (ds : List Char) (e : Int) : List Char :=
  let tail :=
    if e < 0 then 'e' :: '-' :: Nat.toDigits 10 e.natAbs
    else 'e' :: (if plusSign then ['+'] else []) ++ Nat.toDigits 10 e.natAbs
  match ds with
  | d :: r :: rest => d :: '.' :: r :: rest ++ tail
  | ds => ds ++ tail

/-- The text of a magnitude. -/
def FloatStyle.magnitude (style : FloatStyle) (d : Dyadic) : List Char :=
  if d.mantissa = 0 then placePoint style.pointZero ['0'] 1
  else
    let s := d.shortest style.tie
    let ds := Nat.toDigits 10 s.digits
    let point := ds.length + s.exponent
    if style.positional (point - 1) then placePoint style.pointZero ds point
    else placeExponent style.plusSign ds (point - 1)

/-- The text of a float. -/
def FloatStyle.write (style : FloatStyle) (x : Float) : String :=
  if x.isNaN then style.nan
  else if !isFinite x then if isNegative x then style.negInfinity else style.infinity
  else
    let ds := style.magnitude (Dyadic.ofFloat x)
    String.ofList (if isNegative x then '-' :: ds else ds)

/-! ### Reading floats -/

/-- The magnitude written by the digits before the point, those after it, and an exponent. -/
def Scaled.ofParts (whole places : List Char) (exponent : Int) : Scaled :=
  ⟨Nat.ofDigitChars 10 (whole ++ places) 0, exponent - places.length⟩

/-- The float nearest to a magnitude, an infinity beyond the greatest one.  Magnitudes far outside
the range are answered before any power of ten is formed. -/
def Scaled.toFloat (s : Scaled) : Float :=
  let top := digitCount s.digits + s.exponent
  if s.digits = 0 ∨ top < -400 then 0.0
  else if top > 400 then Float.ofBits 0x7FF0000000000000
  else Float.ofScientific s.digits (s.exponent < 0) s.exponent.natAbs

/-- A sign at the front: is it a minus, and what comes after it. -/
def takeSign : List Char → Bool × List Char
  | '-' :: cs => (true, cs)
  | '+' :: cs => (false, cs)
  | cs => (false, cs)

/-- An exponent that takes up the rest of the text, or nothing. -/
def readExponent : List Char → Option Int
  | [] => some 0
  | c :: cs =>
    if c = 'e' ∨ c = 'E' then
      let (negative, ds) := takeSign cs
      (readDigits ds).map fun n => if negative then -(n : Int) else n
    else none

/-- The magnitude written by a text without sign. -/
def readScaled (cs : List Char) : Option Scaled :=
  let whole := cs.takeWhile isDigit
  let (places, rest) :=
    match cs.dropWhile isDigit with
    | '.' :: rest => (rest.takeWhile isDigit, rest.dropWhile isDigit)
    | rest => ([], rest)
  if whole.isEmpty && places.isEmpty then none
  else (readExponent rest).map (Scaled.ofParts whole places)

/-- The float nearest to a decimal text. -/
def readFloat (cs : List Char) : Option Float :=
  let (negative, rest) := takeSign cs
  (readScaled rest).map fun s => if negative then -s.toFloat else s.toFloat

/-- The characters of decimal texts. -/
def isDecimalChar (c : Char) : Bool :=
  isDigit c || c = '.' || c = '-' || c = '+' || c = 'e' || c = 'E'

end PathBag.Decimal
