import ClientGen.Number.Double
import ClientGen.Text.Basic
import ClientGen.Text.Letter

/-!
# Numerals

The numbers that free text denotes: integers of a base and floating-point numbers. White space
around a numeral is ignored, a single underscore may stand between two digits, and the decimal
digits of all scripts count. Long decimal numerals are neither read nor written.
-/

namespace ClientGen.Numeral

/-- Whether underscores stand only between two digits. -/
def separatesDigits (isDigit : Char → Bool) : List Char → Bool
  | [] => false
  | [c] => isDigit c
  | c :: '_' :: rest => isDigit c && separatesDigits isDigit rest
  | c :: rest => isDigit c && separatesDigits isDigit rest

/-- The digits of a run with underscores between them. -/
def digits? (isDigit : Char → Bool) (text : List Char) : Option (List Char) :=
  if separatesDigits isDigit text then some (text.filter (· ≠ '_')) else none

/-- A digit of a base. -/
def isDigitOf (base : Nat) (c : Char) : Bool := (Text.digitValue c).any (· < base)

/-- The number that digits of a base denote. -/
def ofDigits (base : Nat) (digits : List Char) : Nat :=
  digits.foldl (fun n digit => n * base + (Text.digitValue digit).getD 0) 0

/-- A sign and the text after it. -/
def cutSign : List Char → Bool × List Char
  | '-' :: rest => (true, rest)
  | '+' :: rest => (false, rest)
  | rest => (false, rest)

/-- The letter that announces a base. -/
def baseLetter? : Nat → Option Char
  | 2 => some 'b'
  | 8 => some 'o'
  | 16 => some 'x'
  | _ => none

/-- Drop the announcement of a base, and one underscore after it. -/
def dropAnnouncement (base : Nat) : List Char → List Char
  | '0' :: c :: rest =>
      if (baseLetter? base).any fun letter => c = letter || c = letter.toUpper then
        match rest with
        | '_' :: rest => rest
        | rest => rest
      else '0' :: c :: rest
  | text => text

/-- A text with the decimal digits of all scripts as ASCII digits. -/
def plainDigits (text : List Char) : List Char :=
  text.map fun c => ((Text.decimalValue? c).map Text.digitChar).getD c

/-- Most digits of a decimal numeral that is converted. -/
def digitLimit : Nat := 4300

/-- Whether a base is a power of two, so that its numerals may have any length. -/
def isBinary (base : Nat) : Bool := [2, 4, 8, 16, 32].contains base

/-- The integer that a numeral of a base denotes. -/
def int? (base : Nat) (text : List Char) : Option Int := do
  let (negative, size) := cutSign (plainDigits (Text.trim text))
  let digits ← digits? (isDigitOf base) (dropAnnouncement base size)
  if digits.length > digitLimit && !isBinary base then none
  else
    let size : Int := ofDigits base digits
    some (if negative then -size else size)

/-- The base that a numeral announces itself; none for a zero in front of other digits. -/
def announced? (text : List Char) : Option Nat :=
  match (cutSign (plainDigits (Text.trim text))).2 with
  | '0' :: c :: rest =>
      match [2, 8, 16].find? fun base => dropAnnouncement base ['0', c] = [] with
      | some base => some base
      | none => if (c :: rest).all fun d => d == '0' || d == '_' then some 10 else none
  | _ => some 10

/-- The integer that a numeral of a base denotes; with the base zero the numeral announces its
base, and there are no bases beyond thirty-six. -/
def anyInt? (base : Int) (text : List Char) : Option Int :=
  if base = 0 then (announced? text).bind fun found => int? found text
  else if 2 ≤ base && base ≤ 36 then int? base.toNat text
  else none

/-- Whether the decimal numeral of a number is not too long to be written. -/
def isWritable (n : Int) : Bool :=
  n.natAbs.log2 < 14000 || n.natAbs < Nat.pow 10 digitLimit

/-- The decimal numeral of an integer, unless it is too long. -/
def text? (n : Int) : Option String := if isWritable n then some (toString n) else none

/-- The exponent of a numeral; none if it is malformed. -/
def exponent? : List Char → Option Int
  | [] => some 0
  | _ :: rest => do
      let (negative, size) := cutSign rest
      let digits ← digits? Text.isDigit size
      let size : Int := ofDigits 10 digits
      some (if negative then -size else size)

/-- The digits of an optional run. -/
def optionalDigits? (text : List Char) : Option (List Char) :=
  if text.isEmpty then some [] else digits? Text.isDigit text

/-- A numeral without sign, with a point or an exponent or neither. -/
def unsigned? (negative : Bool) (text : List Char) : Option Double := do
  let isMark := fun c => c == 'e' || c == 'E'
  let mantissa := text.takeWhile fun c => !isMark c
  let power ← exponent? (text.dropWhile fun c => !isMark c)
  let (whole, fraction) := (Text.cutAt? '.' mantissa).getD (mantissa, [])
  let whole ← optionalDigits? whole
  let fraction ← optionalDigits? fraction
  if whole.isEmpty && fraction.isEmpty then none
  else some (.ofDecimal negative (ofDigits 10 (whole ++ fraction)) (power - fraction.length))

/-- The floating-point number that a numeral denotes. -/
def double? (text : List Char) : Option Double :=
  let (negative, size) := cutSign (plainDigits (Text.trim text))
  match String.ofList (size.map Char.toLower) with
  | "inf" | "infinity" => some (.infinite negative)
  | "nan" => some .nan
  | _ => unsigned? negative size

end ClientGen.Numeral
