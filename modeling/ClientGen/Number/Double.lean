/-!
# Double-precision numbers

Binary floating-point numbers of sixty-four bits, as exact dyadic fractions. Every operation
computes its exact result as a fraction and rounds once, to the nearest number and to the even
mantissa on a tie.
-/

namespace ClientGen

/-- A double-precision number. A finite one is `mantissa * 2 ^ exponent` with a sign. -/
inductive Double where
  /-- The result of an undefined operation. -/
  | nan
  /-- An infinity. -/
  | infinite (negative : Bool)
  /-- A finite number, zero included. -/
  | finite (negative : Bool) (mantissa : Nat) (exponent : Int)
  deriving DecidableEq, Repr, Inhabited

namespace Double

/-- Bits of a full mantissa. -/
def precision : Nat := 53

/-- The exponent of the subnormal numbers. -/
def leastExponent : Int := -1074

/-- The exponent of the largest finite numbers. -/
def greatestExponent : Int := 971

/-- A zero with a sign. -/
def zero (negative : Bool) : Double := .finite negative 0 leastExponent

/-! ## Rounding -/

/-- The nearest integer to a fraction, the even one on a tie. -/
def nearestEven (numerator denominator : Nat) : Nat :=
  let quotient := numerator / denominator
  let twice := 2 * (numerator % denominator)
  if twice > denominator || (twice == denominator && quotient % 2 == 1) then quotient + 1
  else quotient

/-- A fraction divided by a power of two. -/
def scaled (numerator denominator : Nat) (exponent : Int) : Nat × Nat :=
  if 0 ≤ exponent then (numerator, denominator * Nat.pow 2 exponent.toNat)
  else (numerator * Nat.pow 2 (-exponent).toNat, denominator)

/-- The exponent that gives a positive fraction a full mantissa, or the least exponent. -/
def exponentOf (numerator denominator : Nat) : Int :=
  let guess : Int := (numerator.log2 : Int) - denominator.log2 - 52
  let (top, bottom) := scaled numerator denominator guess
  let exact := if top / bottom < Nat.pow 2 52 then guess - 1 else guess
  if exact < leastExponent then leastExponent else exact

/-- The number nearest to a fraction. -/
def ofRatio (negative : Bool) (numerator denominator : Nat) : Double :=
  if numerator = 0 then zero negative
  else
    let exponent := exponentOf numerator denominator
    let (top, bottom) := scaled numerator denominator exponent
    let mantissa := nearestEven top bottom
    let (mantissa, exponent) :=
      if mantissa = Nat.pow 2 precision then (Nat.pow 2 52, exponent + 1) else (mantissa, exponent)
    if exponent > greatestExponent then .infinite negative
    else .finite negative mantissa exponent

/-- Number of decimal digits of a natural number. -/
def digitCount (n : Nat) : Nat := (Nat.toDigits 10 n).length

/-- The number nearest to `digits * 10 ^ exponent`. -/
def ofDecimal (negative : Bool) (digits : Nat) (exponent : Int) : Double :=
  if digits = 0 then zero negative
  else
    let magnitude : Int := digitCount digits + exponent
    if magnitude > 400 then .infinite negative
    else if magnitude < -400 then zero negative
    else if 0 ≤ exponent then ofRatio negative (digits * Nat.pow 10 exponent.toNat) 1
    else ofRatio negative digits (Nat.pow 10 (-exponent).toNat)

/-- The number nearest to an integer. -/
def ofInt (n : Int) : Double := ofRatio (n < 0) n.natAbs 1

/-! ## Exact values -/

/-- Whether the sign is minus. -/
def isNegative : Double → Bool
  | .nan => false
  | .infinite negative => negative
  | .finite negative _ _ => negative

/-- A zero of either sign. -/
def isZero : Double → Bool
  | .finite _ 0 _ => true
  | _ => false

/-- A number that is neither infinite nor undefined. -/
def isFinite : Double → Bool
  | .finite .. => true
  | _ => false

/-- The size of a finite number as a fraction. -/
def magnitudeRatio (mantissa : Nat) (exponent : Int) : Nat × Nat :=
  if 0 ≤ exponent then (mantissa * Nat.pow 2 exponent.toNat, 1)
  else (mantissa, Nat.pow 2 (-exponent).toNat)

/-- A finite number as a fraction. -/
def toRatio? : Double → Option (Int × Nat)
  | .finite negative mantissa exponent =>
      let (top, bottom) := magnitudeRatio mantissa exponent
      some (if negative then -(top : Int) else top, bottom)
  | _ => none

/-- The integer part of a finite number, toward zero. -/
def truncate? (x : Double) : Option Int :=
  x.toRatio?.map fun (top, bottom) => Int.tdiv top bottom

/-- The largest integer that is not above a finite number. -/
def floor? (x : Double) : Option Int :=
  x.toRatio?.map fun (top, bottom) => Int.fdiv top bottom

/-- Whether a number is an integer. -/
def isInteger (x : Double) : Bool :=
  match x.toRatio? with
  | some (top, bottom) => top % bottom == 0
  | none => false

/-! ## Comparison -/

/-- Order of two numbers as fractions and infinities; none when one is undefined. -/
def compare? : Double → Double → Option Ordering
  | .nan, _ | _, .nan => none
  | .infinite a, .infinite b => some (compare (!a).toNat (!b).toNat)
  | .infinite a, .finite .. => some (if a then .lt else .gt)
  | .finite .., .infinite b => some (if b then .gt else .lt)
  | x, y =>
      match x.toRatio?, y.toRatio? with
      | some (a, b), some (c, d) => some (compare (a * d) (c * b))
      | _, _ => none

/-- Numerical equality: the two zeros are equal, and nothing equals an undefined number. -/
def same (x y : Double) : Bool := x.compare? y == some .eq

/-- Order of an integer and a number. -/
def compareInt? (n : Int) : Double → Option Ordering
  | .nan => none
  | .infinite negative => some (if negative then .gt else .lt)
  | x => x.toRatio?.map fun (top, bottom) => compare (n * bottom) top

/-! ## Arithmetic -/

/-- The number nearest to a signed fraction; an exact zero takes the given sign. -/
def ofSigned (negativeZero : Bool) (numerator : Int) (denominator : Nat) : Double :=
  if numerator = 0 then zero negativeZero
  else ofRatio (numerator < 0) numerator.natAbs denominator

/-- The number with the opposite sign. -/
def neg : Double → Double
  | .nan => .nan
  | .infinite negative => .infinite !negative
  | .finite negative mantissa exponent => .finite (!negative) mantissa exponent

/-- The number without its sign. -/
def abs : Double → Double
  | .nan => .nan
  | .infinite _ => .infinite false
  | .finite _ mantissa exponent => .finite false mantissa exponent

/-- Sum. -/
def add : Double → Double → Double
  | .nan, _ | _, .nan => .nan
  | .infinite a, .infinite b => if a = b then .infinite a else .nan
  | .infinite a, .finite .. => .infinite a
  | .finite .., .infinite b => .infinite b
  | x, y =>
      match x.toRatio?, y.toRatio? with
      | some (a, b), some (c, d) =>
          ofSigned (x.isNegative && y.isNegative) (a * d + c * b) (b * d)
      | _, _ => .nan

/-- Difference. -/
def sub (x y : Double) : Double := add x y.neg

/-- Product. -/
def mul (x y : Double) : Double :=
  let negative := x.isNegative != y.isNegative
  match x, y with
  | .nan, _ | _, .nan => .nan
  | .infinite _, z | z, .infinite _ => if z.isZero then .nan else .infinite negative
  | _, _ =>
      match x.toRatio?, y.toRatio? with
      | some (a, b), some (c, d) => ofSigned negative (a * c) (b * d)
      | _, _ => .nan

/-- Quotient; none for a zero divisor. -/
def div? (x y : Double) : Option Double :=
  if y.isZero then none
  else
    let negative := x.isNegative != y.isNegative
    match x, y with
    | .nan, _ | _, .nan => some .nan
    | .infinite _, .infinite _ => some .nan
    | .infinite _, _ => some (.infinite negative)
    | _, .infinite _ => some (zero negative)
    | _, _ =>
        match x.toRatio?, y.toRatio? with
        | some (a, b), some (c, d) =>
            some (ofSigned negative
              (if negative then -(a.natAbs * d : Nat) else (a.natAbs * d : Nat)) (c.natAbs * b))
        | _, _ => some .nan

/-- Remainder with the sign of the divisor; none for a zero divisor. -/
def mod? (x y : Double) : Option Double :=
  if y.isZero then none
  else
    match x, y with
    | .nan, _ | _, .nan => some .nan
    | .infinite _, _ => some .nan
    | _, .infinite negative =>
        some (if x.isZero then zero negative
          else if x.isNegative = negative then x else y)
    | _, _ =>
        match x.toRatio?, y.toRatio? with
        | some (a, b), some (c, d) =>
            some (ofSigned y.isNegative (Int.fmod (a * d) (c * b)) (b * d))
        | _, _ => some .nan

/-- Quotient rounded down to an integer; none for a zero divisor. -/
def floorDiv? (x y : Double) : Option Double :=
  if y.isZero then none
  else
    let negative := x.isNegative != y.isNegative
    match x, y with
    | .nan, _ | _, .nan => some .nan
    | .infinite _, _ => some .nan
    | _, .infinite _ => some (if x.isZero || !negative then zero negative else ofInt (-1))
    | _, _ =>
        match x.toRatio?, y.toRatio? with
        | some (a, b), some (c, d) => some (ofSigned negative (Int.fdiv (a * d) (c * b)) 1)
        | _, _ => some .nan

/-- Power with a natural exponent, rounded once. -/
def powNat (x : Double) (n : Nat) : Double :=
  match x with
  | .nan => if n = 0 then ofInt 1 else .nan
  | .infinite negative => if n = 0 then ofInt 1 else .infinite (negative && n % 2 == 1)
  | .finite negative mantissa exponent =>
      let (top, bottom) := magnitudeRatio mantissa exponent
      ofRatio (negative && n % 2 == 1) (Nat.pow top n) (Nat.pow bottom n)

end Double

end ClientGen
