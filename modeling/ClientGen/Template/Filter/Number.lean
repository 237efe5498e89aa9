import ClientGen.Template.Filter.Text

/-!
# Filters of numbers

Filters that make a number of a datum, and the written form of sizes.
-/

namespace ClientGen.Template

namespace Run

open Datum hiding none

/-! ## Reading numbers -/

/-- The floating-point number that a text spells. -/
def spelledDouble (s : String) : Run Double := orFault .badValue (Numeral.double? s.toList)

/-- The floating-point number that a datum is or spells. -/
def readDouble (datum : Datum) : Run Double :=
  match datum, datum.text? with
  | _, some s => spelledDouble s
  | .bytes octets, _ => spelledDouble (String.ofList (octets.map fun octet => Char.ofNat octet.toNat))
  | other, .none => doubleOf other

/-- The faults of a datum that spells no number. -/
def spellsNothing (fault : Fault) : Bool := fault == .badKind || fault == .badValue

/-- The integer that a datum spells with a fraction that is dropped, or another datum. -/
def readFraction (default datum : Datum) : Run Datum :=
  rescue (do pure (.int (← truncated (← readDouble datum))))
    (fun fault => spellsNothing fault || fault == .overflow) (pure default)

/-- The integer that a text spells to a base. -/
def spelledInt (base : Datum) (s : String) : Run Datum := do
  pure (.int (← orFault .badValue (Numeral.anyInt? (← intArgument base) s.toList)))

/-- The integer that a datum is or spells, or another datum. -/
def readInt (default base datum : Datum) : Run Datum :=
  match datum, datum.text? with
  | .undefined what, _ => missing what
  | _, some s => rescue (spelledInt base s) spellsNothing (readFraction default datum)
  | .bytes octets, _ =>
      rescue (spelledInt (.int 10) (String.ofList (octets.map fun octet => Char.ofNat octet.toNat)))
        spellsNothing (readFraction default datum)
  | _, .none =>
      match datum.number? with
      | some (.int n) => pure (.int n)
      | some (.float x) =>
          rescue (do pure (.int (← truncated x))) spellsNothing (readFraction default datum)
      | .none => pure default

/-! ## Rounding -/

/-- The places beyond which rounding changes nothing, and those in front of which nothing is left
of a number. -/
def greatestPlaces : Int := 330

/-- A quotient rounded to the nearest multiple of a power of ten, a half to the even one. -/
def nearestAt (places : Int) (top : Int) (bottom : Nat) : Int × Nat :=
  let signed (n : Nat) : Int := if top < 0 then -(n : Int) else n
  if 0 ≤ places then
    let scale := Nat.pow 10 places.toNat
    (signed (Double.nearestEven (top.natAbs * scale) bottom), scale)
  else
    let scale := Nat.pow 10 (-places).toNat
    (signed (Double.nearestEven top.natAbs (bottom * scale)) * scale, 1)

/-- A number rounded to a number of decimal places, a half to the even digit. -/
def nearest (datum places : Datum) : Run Datum := do
  match datum.number?, places with
  | some (.int n), .none => pure (.int n)
  | some (.int n), _ => do
      let places ← intArgument places
      pure (.int (if 0 ≤ places then n
        else if places < -(n.natAbs.log2 + 2 : Nat) then 0
        else (nearestAt places n 1).1))
  | some (.float x), .none =>
      match x.toRatio? with
      | some (top, bottom) => pure (.int (nearestAt 0 top bottom).1)
      | .none => do pure (.int (← truncated x))
  | some (.float x), _ => do
      let places ← intArgument places
      match x.toRatio? with
      | .none => pure (.float x)
      | some (top, bottom) =>
          if greatestPlaces < places then pure (.float x)
          else if places < -greatestPlaces then pure (.float (.zero x.isNegative))
          else
            let (n, scale) := nearestAt places top bottom
            let rounded := Double.ofSigned x.isNegative n scale
            if rounded.isFinite then pure (.float rounded) else fault .overflow
  | .none, _ => unsupported

/-- A number rounded up or down to an integer. -/
def wholeNumber (isUp : Bool) (datum : Datum) : Run Datum := do
  match datum.number? with
  | some (.int n) => pure (.int n)
  | some (.float x) =>
      match x.toRatio? with
      | some (top, bottom) =>
          pure (.int (if isUp then -Int.fdiv (-top) bottom else Int.fdiv top bottom))
      | .none => do pure (.int (← truncated x))
  | .none => unsupported

/-- A number rounded in a way to a number of decimal places. -/
def roundedNumber (datum places way : Datum) : Run Datum := do
  match way.text? with
  | some "common" => nearest datum places
  | some "ceil" | some "floor" => do
      let scale ← operate .power (.int 10) places
      let whole ← wholeNumber (way.text? == some "ceil") (← operate .multiply datum scale)
      operate .divide whole scale
  | _ => do
      let _ ← asKey way
      fail "an unknown way of rounding"

/-! ## Sizes -/

/-- The units of sizes. -/
def sizeUnits (isBinary : Bool) : List String :=
  ["k", "M", "G", "T", "P", "E", "Z", "Y"].map fun letter =>
    if isBinary then Text.upperString letter ++ "iB" else letter ++ "B"

/-- A size in the first unit that is large enough; each unit is a step larger than the one
before. -/
def sizeIn (size : Double) (base : Nat) (step : Nat) : List String → Run String
  | [] => unsupported
  | name :: rest => do
      let unit := Double.ofInt step
      if (size.compare? unit).any (· == .lt) || rest.isEmpty then do
        let shown ← orZeroDivision (((Double.ofInt base).mul size).div? unit)
        pure (shown.withPlaces 1 ++ " " ++ name)
      else sizeIn size base (step * base) rest

/-- A number of octets as a size. -/
def sizeText (datum isBinary : Datum) : Run Datum := do
  let size ← readDouble datum
  let isBinary ← isTruthy isBinary
  let base : Nat := if isBinary then 1024 else 1000
  if size.same (.ofInt 1) then pure (.text "1 Byte")
  else if (size.compare? (.ofInt base)).any (· == .lt) then do
    pure (.text ((← numeral (← truncated size)) ++ " Bytes"))
  else do pure (.text (← sizeIn size base (base * base) (sizeUnits isBinary)))

/-- A number without its sign. -/
def absolute (datum : Datum) : Run Datum :=
  match datum, datum.number? with
  | .span micro, _ => pure (.span micro.natAbs)
  | _, some (.int n) => pure (.int n.natAbs)
  | _, some (.float x) => pure (.float x.abs)
  | .complex z, .none => pure (.float z.abs)
  | _, .none => unsupported

/-! ## All of them -/

/-- The filters of numbers. -/
def numberFilters : Filters :=
  [("abs", plainFilter absolute),
    ("int", fittedFilter [("default", some (.int 0)), ("base", some (.int 10))]
      fun _ datum given => readInt (argument given 0 .none) (argument given 1 .none) datum),
    ("float", fittedFilter [("default", some (.float (.zero false)))] fun _ datum given =>
      rescue (do pure (.float (← readDouble datum))) spellsNothing
        (pure (argument given 0 .none))),
    ("round", fittedFilter [("precision", some (.int 0)), ("method", some (.text "common"))]
      fun _ datum given => roundedNumber datum (argument given 0 .none) (argument given 1 .none)),
    ("filesizeformat", fittedFilter [("binary", unset)] fun _ datum given =>
      sizeText datum (argument given 0 .none))]

end Run

end ClientGen.Template
