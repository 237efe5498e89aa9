import ClientGen.Number.Double
import ClientGen.Number.Shortest

/-!
# Powers and complex numbers

Powers of double-precision numbers. A small integral exponent gives the exact power, rounded once;
any other power is computed from logarithms with so many binary places that its rounding is the
one of the exact value. Powers of negative numbers with exponents that are no integers are complex
numbers, with double-precision parts.
-/

namespace ClientGen

namespace Double

/-! ## Logarithms and exponentials in binary places -/

/-- Binary places of the computation. -/
def binaryPlaces : Nat := 240

/-- One, in binary places. -/
def fixedOne : Int := Int.pow 2 binaryPlaces

/-- The sum of `z + z ^ 3 / 3 + z ^ 5 / 5 + …`, from the term with `power` on. -/
def oddSeries (square : Int) : (terms : Nat) → (power : Int) → (divisor : Nat) → Int
  | 0, _, _ => 0
  | terms + 1, power, divisor =>
      Int.tdiv power divisor +
        oddSeries square terms (Int.tdiv (power * square) fixedOne) (divisor + 2)

/-- The logarithm of the fraction `top / bottom` between one half and two. -/
def logNearOne (top bottom : Nat) : Int :=
  let z := Int.tdiv (((top : Int) - bottom) * fixedOne) (top + bottom)
  2 * oddSeries (Int.tdiv (z * z) fixedOne) 100 z 1

/-- The logarithm of two. -/
def logTwo : Int := logNearOne 2 1

/-- The logarithm of a positive mantissa at a binary exponent. -/
def logOf (mantissa : Nat) (exponent : Int) : Int :=
  let size := mantissa.log2
  logNearOne mantissa (Nat.pow 2 size) + (exponent + size) * logTwo

/-- The sum of `term + term * r / n + …`, the exponential series from its `n`-th term on. -/
def exponentialSeries (r : Int) : (terms : Nat) → (term : Int) → (n : Nat) → Int
  | 0, _, _ => 0
  | terms + 1, term, n =>
      term + exponentialSeries r terms (Int.tdiv (Int.tdiv (term * r) fixedOne) n) (n + 1)

/-- The number nearest to the exponential of `t`. -/
def exponential (t : Int) : Double :=
  let doublings := Int.fdiv (2 * t + logTwo) (2 * logTwo)
  if doublings > 1100 then .infinite false
  else if doublings < -1200 then .zero false
  else
    let sum := (exponentialSeries (t - doublings * logTwo) 90 fixedOne 1).toNat
    if 0 ≤ doublings then ofRatio false (sum * Nat.pow 2 doublings.toNat) (Nat.pow 2 binaryPlaces)
    else ofRatio false sum (Nat.pow 2 (binaryPlaces + (-doublings).toNat))

/-! ## Powers -/

/-- An odd integer. -/
def isOdd (x : Double) : Bool :=
  match x.toRatio? with
  | some (top, bottom) => top % bottom == 0 && (top / bottom) % 2 != 0
  | none => false

/-- The greatest exponent for which powers are computed exactly. -/
def exactExponent : Nat := 64

/-- A power of a positive finite number. -/
def powPositive (mantissa : Nat) (exponent : Int) (y : Double) : Double :=
  match y.toRatio? with
  | none => .nan
  | some (top, bottom) =>
      if top % bottom == 0 && (top / bottom).natAbs ≤ exactExponent then
        let n := (top / bottom).natAbs
        let (above, below) := magnitudeRatio mantissa exponent
        if 0 ≤ top then ofRatio false (Nat.pow above n) (Nat.pow below n)
        else ofRatio false (Nat.pow below n) (Nat.pow above n)
      else exponential (Int.tdiv (top * logOf mantissa exponent) bottom)

/-- A power. Negative numbers have powers with integral exponents only. -/
def pow (x y : Double) : Double :=
  let one := ofInt 1
  if y.isZero || x = one then one
  else
    match x, y with
    | .nan, _ | _, .nan => .nan
    | .infinite negative, _ =>
        let negative := negative && y.isOdd
        if y.isNegative then zero negative else .infinite negative
    | .finite _ mantissa exponent, .infinite negative =>
        let (top, bottom) := magnitudeRatio mantissa exponent
        if top = bottom then one
        else if negative = (top < bottom) then .infinite false
        else zero false
    | .finite negative 0 _, _ =>
        let negative := negative && y.isOdd
        if y.isNegative then .infinite negative else zero negative
    | .finite negative mantissa exponent, _ =>
        let size := powPositive mantissa exponent y
        if negative then
          if y.isInteger then (if y.isOdd then size.neg else size) else .nan
        else size

end Double

/-!
## Sines and cosines

Sines and cosines of double-precision angles. An angle is reduced to an eighth of a turn around a
multiple of the right angle, and the series there is summed with so many binary places that its
rounding is the one of the exact value.
-/

namespace Double

/-- The sum of `z - z ^ 3 / 3 + z ^ 5 / 5 - …` for a `z` with the given square, from the term with
`power` on. -/
def alternatingSeries (square : Int) : (terms : Nat) → (power : Int) → (divisor : Nat) → Int
  | 0, _, _ => 0
  | terms + 1, power, divisor =>
      Int.tdiv power divisor -
        alternatingSeries square terms (Int.tdiv (power * square) fixedOne) (divisor + 2)

/-- The angle whose tangent is one over `n`. -/
def inverseTangent (n : Nat) : Int :=
  let z := Int.tdiv fixedOne n
  alternatingSeries (Int.tdiv (z * z) fixedOne) 120 z 1

/-- The right angle. -/
def rightAngle : Int := 8 * inverseTangent 5 - 2 * inverseTangent 239

/-- The sum of `term - term * r ^ 2 / (n * (n + 1)) + …`, the series of the sine and the cosine. -/
def circleSeries (square : Int) : (terms : Nat) → (term : Int) → (n : Nat) → Int
  | 0, _, _ => 0
  | terms + 1, term, n =>
      term - circleSeries square terms
        (Int.tdiv (Int.tdiv (term * square) fixedOne) (n * (n + 1))) (n + 2)

/-- The sine of a small angle. -/
def smallSine (r : Int) : Int := circleSeries (Int.tdiv (r * r) fixedOne) 40 r 2

/-- The cosine of a small angle. -/
def smallCosine (r : Int) : Int := circleSeries (Int.tdiv (r * r) fixedOne) 40 fixedOne 1

/-- The number nearest to one in binary places. -/
def ofPlaces (n : Int) : Double := ofRatio (n < 0) n.natAbs (Nat.pow 2 binaryPlaces)

/-- The sine of an angle, some right angles later. -/
def sineAfter (turns : Int) (x : Double) : Double :=
  match x.toRatio? with
  | none => .nan
  | some (top, bottom) =>
      let angle := Int.fdiv (top * fixedOne) bottom
      let turned := Int.fdiv (2 * angle + rightAngle) (2 * rightAngle)
      let r := angle - turned * rightAngle
      match (turned + turns) % 4 with
      | 0 => if angle.natAbs < Nat.pow 2 200 then x else ofPlaces (smallSine r)
      | 1 => ofPlaces (smallCosine r)
      | 2 => ofPlaces (-smallSine r)
      | _ => ofPlaces (-smallCosine r)

/-- The sine of an angle. So small an angle is its own sine that its cube does not matter. -/
def sine (x : Double) : Double := sineAfter 0 x

/-- The cosine of an angle. -/
def cosine (x : Double) : Double := sineAfter 1 x

/-- Half a turn. -/
def halfTurn : Double := ofPlaces (2 * rightAngle)

end Double

/-! ## Complex numbers -/

/-- A complex number. -/
structure Complex where
  /-- The real part. -/
  real : Double
  /-- The imaginary part. -/
  imaginary : Double
  deriving DecidableEq, Repr, Inhabited

namespace Complex

/-- A real number. -/
def ofReal (x : Double) : Complex := ⟨x, .zero false⟩

/-- The text of a part; an integral part has no places. -/
def partText (x : Double) : List Char :=
  let shown := x.toText.toList
  match shown.reverse with
  | '0' :: '.' :: rest => rest.reverse
  | _ => shown

/-- The text of a number: its parts in parentheses, or the imaginary part alone. -/
def toText (z : Complex) : String :=
  let imaginary := partText z.imaginary
  if z.real.isZero && !z.real.isNegative then String.ofList (imaginary ++ ['j'])
  else
    let sign := if imaginary.head? = some '-' then [] else ['+']
    String.ofList ('(' :: partText z.real ++ sign ++ imaginary ++ ['j', ')'])

/-- Equality of numbers. -/
def same (z w : Complex) : Bool := z.real.same w.real && z.imaginary.same w.imaginary

/-- The number with the opposite sign. -/
def neg (z : Complex) : Complex := ⟨z.real.neg, z.imaginary.neg⟩

/-- The distance from zero. -/
def abs (z : Complex) : Double :=
  match z.real.toRatio?, z.imaginary.toRatio? with
  | some (a, b), some (c, d) =>
      let top := Nat.pow (a.natAbs * d) 2 + Nat.pow (c.natAbs * b) 2
      let places := Nat.pow 2 Double.binaryPlaces
      .ofRatio false (Nat.sqrt (top * Nat.pow places 2)) (b * d * places)
  | _, _ => if z.real = .nan || z.imaginary = .nan then .nan else .infinite false

/-- The sum of two numbers. -/
def add (z w : Complex) : Complex := ⟨z.real.add w.real, z.imaginary.add w.imaginary⟩

/-- The difference of two numbers. -/
def sub (z w : Complex) : Complex := ⟨z.real.sub w.real, z.imaginary.sub w.imaginary⟩

/-- The product of two numbers. -/
def mul (z w : Complex) : Complex :=
  ⟨(z.real.mul w.real).sub (z.imaginary.mul w.imaginary),
    (z.real.mul w.imaginary).add (z.imaginary.mul w.real)⟩

/-- The quotient of two numbers, computed with the ratio of the smaller part of the divisor to the
larger one; none if the divisor is zero. -/
def div? (z w : Complex) : Option Complex :=
  if w.imaginary.abs.compare? w.real.abs == some .gt then do
    let ratio ← w.real.div? w.imaginary
    let size := (w.real.mul ratio).add w.imaginary
    some ⟨← ((z.real.mul ratio).add z.imaginary).div? size,
      ← ((z.imaginary.mul ratio).sub z.real).div? size⟩
  else do
    let ratio ← w.imaginary.div? w.real
    let size := w.real.add (w.imaginary.mul ratio)
    some ⟨← (z.real.add (z.imaginary.mul ratio)).div? size,
      ← (z.imaginary.sub (z.real.mul ratio)).div? size⟩

/-- A power with a natural exponent, by squaring: `square` is the power of the number at the lowest
binary digit of the exponent. -/
def powFrom : (fuel : Nat) → (done square : Complex) → (n : Nat) → Complex
  | 0, done, _, _ => done
  | fuel + 1, done, square, n =>
      if n = 0 then done
      else powFrom fuel (if n % 2 = 1 then done.mul square else done) (square.mul square) (n / 2)

/-- A power with a natural exponent. -/
def powNat (z : Complex) (n : Nat) : Complex := powFrom (n.log2 + 1) (ofReal (.ofInt 1)) z n

/-- A power of a negative number. -/
def ofNegativePower (base exponent : Double) : Complex :=
  let size := base.abs.pow exponent
  let angle := Double.halfTurn.mul exponent
  ⟨size.mul angle.cosine, size.mul angle.sine⟩

end Complex

end ClientGen
