/-!
# Floats in exact arithmetic

A finite float is `mantissa * 2 ^ exponent` up to sign.  The parts are read off the bits, and the
questions about its integral value are answered in exact arithmetic.

Among the decimals that read back as a given float, the ones with the fewest digits are wanted, and
among those the nearest.  The reals that round to the float form an interval from half way to its
lower neighbour to half way to its upper one, with the ends when the mantissa is even.  On each
decimal grid the two neighbours of the float are tried, from the coarsest grid on.
-/

namespace PathBag.Decimal

/-! ### The parts of a float -/

/-- The magnitude `mantissa * 2 ^ exponent`. -/
structure Dyadic where
  mantissa : Nat
  exponent : Int

/-- The sign bit of a float. -/
def isNegative (x : Float) : Bool := x.toBits >>> 63 == 1

/-- Neither infinite nor a NaN. -/
def isFinite (x : Float) : Bool := (x.toBits >>> 52) &&& 0x7FF != 0x7FF

/-- The magnitude of a finite float. -/
def Dyadic.ofFloat (x : Float) : Dyadic :=
  let e := ((x.toBits >>> 52) &&& 0x7FF).toNat
  let f := (x.toBits &&& 0xFFFFFFFFFFFFF).toNat
  if e = 0 then ⟨f, -1074⟩ else ⟨Nat.pow 2 52 + f, (e : Int) - 1075⟩

/-- The integral part. -/
def Dyadic.floor (d : Dyadic) : Nat :=
  d.mantissa * Nat.pow 2 d.exponent.toNat / Nat.pow 2 (-d.exponent).toNat

/-- Is there nothing after the point? -/
def Dyadic.isWhole (d : Dyadic) : Bool := d.mantissa % Nat.pow 2 (-d.exponent).toNat == 0

/-- The integer that is left of a finite float when the places after its point are dropped. -/
def truncate (x : Float) : Int :=
  let n : Int := (Dyadic.ofFloat x).floor
  if isNegative x then -n else n

/-- Truncation that stops at the ends of the 64-bit integers; a NaN gives zero. -/
def saturate (x : Float) : Int64 :=
  if x.isNaN then 0
  else if !isFinite x then if isNegative x then Int64.minValue else Int64.maxValue
  else Int64.ofInt (max Int64.minValue.toInt (min Int64.maxValue.toInt (truncate x)))

/-- The float nearest to a 64-bit integer. -/
def floatOfInt64 (n : Int64) : Float :=
  let magnitude := n.toInt.natAbs.toUInt64.toFloat
  if n.toInt < 0 then -magnitude else magnitude

/-- The integer that a float holds exactly, strictly between `-2 ^ 63` and `2 ^ 63`. -/
def exactInt64? (x : Float) : Option Int64 :=
  if isFinite x && (Dyadic.ofFloat x).isWhole && (truncate x).natAbs < Nat.pow 2 63 then
    some (Int64.ofInt (truncate x))
  else none

/-! ### The shortest decimal -/

/-- Which of two equally near neighbours is taken. -/
inductive Tie where
  | up | even

/-- The number `digits * 10 ^ exponent`. -/
structure Scaled where
  digits : Nat
  exponent : Int

/-- The number of decimal digits of a natural. -/
def digitCount (n : Nat) : Nat := (Nat.toDigits 10 n).length

/-- Compares `s` with `d`. -/
def Scaled.compareTo (s : Scaled) (d : Dyadic) : Ordering :=
  compare (s.digits * Nat.pow 10 s.exponent.toNat * Nat.pow 2 (-d.exponent).toNat)
    (d.mantissa * Nat.pow 2 d.exponent.toNat * Nat.pow 10 (-s.exponent).toNat)

/-- Half way to the lower neighbour: the gap below a power of two is half as wide as the one above,
save at the least exponent. -/
def Dyadic.lowerEnd (d : Dyadic) : Dyadic :=
  if d.mantissa = Nat.pow 2 52 ∧ d.exponent > -1074 then ⟨4 * d.mantissa - 1, d.exponent - 2⟩
  else ⟨4 * d.mantissa - 2, d.exponent - 2⟩

/-- Half way to the upper neighbour. -/
def Dyadic.upperEnd (d : Dyadic) : Dyadic := ⟨4 * d.mantissa + 2, d.exponent - 2⟩

/-- Does `s` round to `d`? -/
def Dyadic.readsBack (d : Dyadic) (s : Scaled) : Bool :=
  let even := d.mantissa % 2 == 0
  let low := s.compareTo d.lowerEnd
  let high := s.compareTo d.upperEnd
  (low == .gt || even && low == .eq) && (high == .lt || even && high == .eq)

/-- The least `k` with `d < 10 ^ k`, for a positive `d`. -/
def Dyadic.scale (d : Dyadic) : Int :=
  if d.floor = 0 then 1 - digitCount ((Nat.pow 2 (-d.exponent).toNat - 1) / d.mantissa)
  else digitCount d.floor

/-- The greatest multiple of `10 ^ e` that is not above `d`, in units of `10 ^ e`. -/
def Dyadic.floorAt (d : Dyadic) (e : Int) : Nat :=
  d.mantissa * Nat.pow 2 d.exponent.toNat * Nat.pow 10 (-e).toNat /
    (Nat.pow 2 (-d.exponent).toNat * Nat.pow 10 e.toNat)

/-- The better of the neighbours of `d` on the grid of `10 ^ e`, of those that read back. -/
def Dyadic.onGrid (tie : Tie) (d : Dyadic) (e : Int) : Option Scaled :=
  let n := d.floorAt e
  match d.readsBack ⟨n, e⟩, d.readsBack ⟨n + 1, e⟩ with
  | true, true =>
    match Scaled.compareTo ⟨2 * n + 1, e⟩ ⟨2 * d.mantissa, d.exponent⟩, tie with
    | .gt, _ => some ⟨n, e⟩
    | .lt, _ => some ⟨n + 1, e⟩
    | .eq, .up => some ⟨n + 1, e⟩
    | .eq, .even => some ⟨n + n % 2, e⟩
  | true, false => some ⟨n, e⟩
  | false, true => some ⟨n + 1, e⟩
  | false, false => none

/-- Zeros at the end of the digits moved into the exponent, at most `fuel` of them. -/
def Scaled.strip : Nat → Scaled → Scaled
  | 0, s => s
  | fuel + 1, s =>
    if s.digits % 10 = 0 ∧ s.digits ≠ 0 then Scaled.strip fuel ⟨s.digits / 10, s.exponent + 1⟩
    else s

/-- The decimal that is exactly `d`. -/
def Dyadic.toScaled (d : Dyadic) : Scaled :=
  ⟨d.mantissa * Nat.pow 2 d.exponent.toNat * Nat.pow 5 (-d.exponent).toNat, min d.exponent 0⟩

/-- The shortest decimal of a positive `d`; seventeen digits always suffice. -/
def Dyadic.shortest (tie : Tie) (d : Dyadic) : Scaled :=
  let found := (List.range 17).findSome? fun n : Nat => d.onGrid tie (d.scale - (n + 1))
  (found.getD d.toScaled).strip 20

end PathBag.Decimal
