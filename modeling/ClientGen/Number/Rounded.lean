import ClientGen.Number.Shortest

/-!
# Numbers with a chosen number of digits

A floating-point number written with a fixed number of decimal places, with an exponent, or in
whichever of the two forms suits its size. The digits are those of the exact value, rounded once,
to the even digit on a tie.
-/

namespace ClientGen

namespace Double

/-! ## Digits -/

/-- The size of a finite number as a fraction. -/
def sizeRatio? (x : Double) : Option (Nat × Nat) :=
  x.toRatio?.map fun (top, bottom) => (top.natAbs, bottom)

/-- The digits of a fraction with a number of decimal places, the point left out. -/
def placedDigits (places top bottom : Nat) : List Char :=
  let digits := Text.decimal (nearestEven (top * Nat.pow 10 places) bottom)
  List.replicate (places + 1 - digits.length) '0' ++ digits

/-- The first `count` digits of a fraction and the exponent of the first of them. -/
def leadingDigits (count top bottom : Nat) : List Char × Int :=
  if top = 0 then (List.replicate count '0', 0)
  else
    let exponent := decimalExponent top bottom
    let scale := exponent - (count - 1 : Nat)
    let digits :=
      if 0 ≤ scale then nearestEven top (bottom * Nat.pow 10 scale.toNat)
      else nearestEven (top * Nat.pow 10 (-scale).toNat) bottom
    if digits = Nat.pow 10 count then (Text.decimal (digits / 10), exponent + 1)
    else (Text.decimal digits, exponent)

/-- Digits with a point in front of the last `places` of them. `keepPoint` keeps the point also
when nothing follows it. -/
def pointed (keepPoint : Bool) (places : Nat) (digits : List Char) : List Char :=
  let whole := digits.take (digits.length - places)
  if places = 0 then whole ++ (if keepPoint then ['.'] else [])
  else whole ++ '.' :: digits.drop (digits.length - places)

/-- The exponent of a written number: its sign and at least two digits. -/
def exponentMark (exponent : Int) : List Char :=
  let size := Text.decimal exponent.natAbs
  'e' :: (if exponent < 0 then '-' else '+') :: (List.replicate (2 - size.length) '0' ++ size)

/-- A fraction with a fixed number of places. -/
def fixedText (keepPoint : Bool) (places top bottom : Nat) : List Char :=
  pointed keepPoint places (placedDigits places top bottom)

/-- A fraction with one digit in front of the point, `places` behind it, and an exponent. -/
def exponentText (keepPoint : Bool) (places top bottom : Nat) : List Char :=
  let (digits, exponent) := leadingDigits (places + 1) top bottom
  pointed keepPoint places digits ++ exponentMark exponent

/-- Digits behind a point without the zeros at their end, and without the point if none is left. -/
def dropFinalZeros (text : List Char) : List Char :=
  if text.contains '.' then Text.trimEndWhile (· == '.') (Text.trimEndWhile (· == '0') text)
  else text

/-- A fraction with `count` digits, in the form that suits its size. `limit` is the least exponent
that is written as such; zeros at the end stay on demand. -/
def generalText (keepZeros : Bool) (limit : Int) (count top bottom : Nat) : List Char :=
  let count := Nat.max count 1
  let (digits, exponent) := leadingDigits count top bottom
  if exponent < -4 || limit ≤ exponent then
    let shown := pointed keepZeros (count - 1) digits
    (if keepZeros then shown else dropFinalZeros shown) ++ exponentMark exponent
  else
    let shown := fixedText keepZeros ((count : Int) - 1 - exponent).toNat top bottom
    if keepZeros then shown else dropFinalZeros shown

/-! ## Forms -/

/-- The forms that a number can be written in. -/
inductive Form where
  /-- Positional. -/
  | positional
  /-- With an exponent. -/
  | exponential
  /-- The one that suits the size. -/
  | general
  /-- The one that suits the size, positional forms always with a place behind the point. -/
  | decimal
  deriving DecidableEq, Repr

/-- The size of a number in a form with a number of places or digits. -/
def sizeIn (form : Form) (keepPoint : Bool) (places : Nat) (x : Double) : List Char :=
  match x, x.sizeRatio? with
  | .nan, _ => "nan".toList
  | _, none => "inf".toList
  | _, some (top, bottom) =>
      match form with
      | .positional => fixedText keepPoint places top bottom
      | .exponential => exponentText keepPoint places top bottom
      | .general => generalText keepPoint (Nat.max places 1) places top bottom
      | .decimal =>
          let shown := generalText keepPoint ((Nat.max places 1 : Nat) - 1 : Int) places top bottom
          if shown.contains '.' || shown.contains 'e' then shown else shown ++ ['.', '0']

/-- A number with a fixed number of places. -/
def withPlaces (places : Nat) (x : Double) : String :=
  let size := String.ofList (x.sizeIn .positional false places)
  if x.isNegative then "-" ++ size else size

end Double

end ClientGen
