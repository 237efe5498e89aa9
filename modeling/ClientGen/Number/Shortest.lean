import ClientGen.Number.Double
import ClientGen.Text.Basic

/-!
# Shortest decimal text

The text of a double-precision number has the fewest digits that read back as the number, and of
those the nearest. A layout decides where positional notation ends and how the exponent is written.
-/

namespace ClientGen

namespace Double

/-! ## Shortest digits -/

/-- The exponent of the first decimal digit of a positive fraction. -/
def decimalExponent (numerator denominator : Nat) : Int :=
  if denominator ≤ numerator then digitCount (numerator / denominator) - 1
  else
    let size := digitCount (denominator / numerator)
    if denominator ≤ numerator * Nat.pow 10 (size - 1) then 1 - (size : Int) else -(size : Int)

/-- The numbers that round to a mantissa, in quarters of its unit; the ends belong to it when the
mantissa is even. -/
structure Interval where
  /-- Lower end. -/
  lower : Nat
  /-- The number itself. -/
  value : Nat
  /-- Upper end. -/
  upper : Nat
  /-- Whether the ends round to the number. -/
  closed : Bool

/-- The interval of a mantissa at an exponent. The gap below a power of two is half as wide. -/
def intervalOf (mantissa : Nat) (exponent : Int) : Interval where
  lower := 4 * mantissa - (if mantissa = Nat.pow 2 52 ∧ exponent > leastExponent then 1 else 2)
  value := 4 * mantissa
  upper := 4 * mantissa + 2
  closed := mantissa % 2 == 0

/-- Membership of the fraction `point / unit` in an interval. -/
def Interval.contains (interval : Interval) (point unit : Nat) : Bool :=
  if interval.closed then interval.lower * unit ≤ point && point ≤ interval.upper * unit
  else interval.lower * unit < point && point < interval.upper * unit

/-- The decimal with the digits `digits` at `exponent`, when it lies in the interval. -/
def candidate? (interval : Interval) (quarter : Int) (exponent : Int) (digits : Nat) :
    Option Nat :=
  let (point, unit) :=
    if 0 ≤ exponent then (digits * Nat.pow 10 exponent.toNat, 1)
    else (digits, Nat.pow 10 (-exponent).toNat)
  let (point, unit) :=
    if 0 ≤ quarter then (point, unit * Nat.pow 2 quarter.toNat)
    else (point * Nat.pow 2 (-quarter).toNat, unit)
  if interval.contains point unit then some (Nat.max (point - interval.value * unit)
    (interval.value * unit - point)) else none

/-- The better of the two neighbours of a number on the grid of one decimal exponent. -/
def onGrid? (mantissa : Nat) (binaryExponent decimalExponent : Int) : Option Nat :=
  let interval := intervalOf mantissa binaryExponent
  let quarter := binaryExponent - 2
  let (top, bottom) := magnitudeRatio mantissa binaryExponent
  let below :=
    if 0 ≤ decimalExponent then top / (bottom * Nat.pow 10 decimalExponent.toNat)
    else top * Nat.pow 10 (-decimalExponent).toNat / bottom
  match candidate? interval quarter decimalExponent below,
      candidate? interval quarter decimalExponent (below + 1) with
  | some near, some far =>
      some (if near < far || (near == far && below % 2 == 0) then below else below + 1)
  | some _, none => some below
  | none, some _ => some (below + 1)
  | none, none => none

/-- The digits and the exponent of the shortest decimal, trying grids from the coarsest on. -/
def shortestFrom (mantissa : Nat) (exponent first : Int) : (tries : Nat) → Nat × Int
  | 0 =>
      let (top, bottom) := magnitudeRatio mantissa exponent
      (top * Nat.pow 10 (-(first - 16)).toNat / bottom, first - 16)
  | tries + 1 =>
      let grid := first - (17 - (tries + 1) : Nat)
      match onGrid? mantissa exponent grid with
      | some digits => if digits % 10 = 0 then (digits / 10, grid + 1) else (digits, grid)
      | none => shortestFrom mantissa exponent first tries

/-- The digits and the exponent of the shortest decimal of a positive number. -/
def shortest (mantissa : Nat) (exponent : Int) : Nat × Int :=
  let (top, bottom) := magnitudeRatio mantissa exponent
  shortestFrom mantissa exponent (decimalExponent top bottom) 17

/-! ## Layout -/

/-- The spellings of a written form of numbers. -/
structure Layout where
  /-- Text of the undefined number. -/
  undefined : String
  /-- Text of positive infinity. -/
  infinity : String
  /-- Decimal points further left of the digits than this many places need an exponent. -/
  leadingZeros : Int
  /-- Decimal points further right of the first digit than this many places need an exponent. -/
  integerDigits : Int
  /-- Least number of digits of a written exponent. -/
  exponentDigits : Nat

/-- The digits with a point after the first `point` of them, filled with zeros on either side. -/
def positional (digits : List Char) (point : Int) : List Char :=
  if point ≤ 0 then '0' :: '.' :: (List.replicate (-point).toNat '0' ++ digits)
  else
    let whole := point.toNat
    let shown := digits ++ List.replicate (whole - digits.length) '0'
    shown.take whole ++ '.' :: (if shown.length ≤ whole then ['0'] else shown.drop whole)

/-- The digits with a point after the first one, and an exponent. -/
def scientific (layout : Layout) (digits : List Char) (point : Int) : List Char :=
  let power := point - 1
  let size := Text.decimal power.natAbs
  let fraction := match digits with
    | [] => []
    | [d] => [d]
    | d :: rest => d :: '.' :: rest
  fraction ++ 'e' :: (if power < 0 then '-' else '+') ::
    (List.replicate (layout.exponentDigits - size.length) '0' ++ size)

/-- The text of a size without its sign. -/
def sizeText (layout : Layout) (mantissa : Nat) (exponent : Int) : List Char :=
  if mantissa = 0 then ['0', '.', '0']
  else
    let (digits, power) := shortest mantissa exponent
    let shown := Text.decimal digits
    let point := shown.length + power
    if -layout.leadingZeros < point && point ≤ layout.integerDigits then positional shown point
    else scientific layout shown point

/-- The text of a number. -/
def render (layout : Layout) : Double → String
  | .nan => layout.undefined
  | .infinite negative => if negative then "-" ++ layout.infinity else layout.infinity
  | .finite negative mantissa exponent =>
      let size := String.ofList (sizeText layout mantissa exponent)
      if negative then "-" ++ size else size

/-- Plain text: exponents from seventeen integer digits on and below four leading zeros. -/
def plainLayout : Layout := ⟨"nan", "inf", 4, 16, 2⟩

/-- The spellings of JSON numbers, with its three extra constants. -/
def jsonLayout : Layout := ⟨"NaN", "Infinity", 4, 16, 2⟩

/-- The plain text of a number. -/
def toText (x : Double) : String := x.render plainLayout

end Double

end ClientGen
