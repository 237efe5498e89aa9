import ClientGen.Template.Arithmetic
import ClientGen.Template.Method.Text

/-!
# Operations of numbers and calendar values
-/

namespace ClientGen.Template

namespace Run

open Datum hiding none

/-! ## Numbers -/

/-- The octets of a natural number, the last one first. -/
def octetsBack : (count n : Nat) → List UInt8
  | 0, _ => []
  | count + 1, n => UInt8.ofNat (n % 256) :: octetsBack count (n / 256)

/-- The octets of an integer. -/
def octetsOf (n : Int) (count : Int) (order : List Char) (isSigned : Bool) : Run Datum := do
  if count < 0 then fault .badValue
  else
    let room : Int := Int.pow 256 count.toNat
    let (low, high) := if isSigned then (-(room / 2), room / 2) else (0, room)
    if n < low || high ≤ n then fault .overflow
    else
      let back := octetsBack count.toNat (n % room).toNat
      match String.ofList order with
      | "big" => pure (.bytes back.reverse)
      | "little" => pure (.bytes back)
      | _ => fault .badValue

/-- The operation of an integer. -/
def intMethod (n : Int) (name : String) (arguments : Supplied) : Run Datum := do
  if name = "to_bytes" then
    match ← arguments.fit [("length", some (.int 1)), ("byteorder", some (.text "big")),
        ("signed", some (.bool false))] with
    | [count, order, isSigned] => do
        octetsOf n (← intArgument count) (← textArgument order) (← isTruthy isSigned)
    | _ => unsupported
  else
    arguments.finish
    match name with
    | "bit_length" => pure (.int (if n = 0 then 0 else n.natAbs.log2 + 1))
    | "bit_count" => pure (.int ((Nat.toDigits 2 n.natAbs).filter (· == '1')).length)
    | "conjugate" => pure (.int n)
    | "as_integer_ratio" => pure (.tuple [.int n, .int 1])
    | _ => unsupported

/-- A number in hexadecimal digits with a binary exponent. -/
def hexText (x : Double) : String :=
  match x with
  | .finite _ mantissa exponent =>
      let sign := if x.isNegative then "-" else ""
      if mantissa = 0 then sign ++ "0x0.0p+0"
      else
        let shift := 52 - mantissa.log2
        let isSmall := exponent - shift < -1074
        let shift := if isSmall then (exponent + 1074).toNat else shift
        let full := mantissa * Nat.pow 2 shift
        let power := exponent - shift + 52
        sign ++ "0x" ++ toString (full / Nat.pow 2 52) ++ "." ++
          String.ofList (Text.hex 13 (full % Nat.pow 2 52)) ++ "p" ++
          (if power < 0 then "-" else "+") ++ toString power.natAbs
  | _ => x.toText

/-- The operation of a floating-point number. -/
def floatMethod (x : Double) (name : String) (arguments : Supplied) : Run Datum := do
  arguments.finish
  match name with
  | "is_integer" => pure (.bool x.isInteger)
  | "conjugate" => pure (.float x)
  | "hex" => pure (.text (hexText x))
  | "as_integer_ratio" =>
      match x.toRatio? with
      | some (top, bottom) =>
          let divisor := Nat.gcd top.natAbs bottom
          pure (.tuple [.int (top / divisor), .int (bottom / divisor : Nat)])
      | .none => fault (if x = .nan then .badValue else .overflow)
  | _ => unsupported

/-! ## Calendar values -/

/-- A field of a calendar value with another value, within its bounds. -/
def fieldArgument (datum : Datum) : Run Nat := do
  let n ← intArgument datum
  if n < 0 then fault .badValue else pure n.toNat

/-- The operation of a day. -/
def dayMethod (d : Day) (name : String) (arguments : Supplied) : Run Datum := do
  match name with
  | "strftime" => do
      match ← arguments.fit [("format", .none)] with
      | [pattern] => do pure (.ofChars (dateText (startOf d) (← textArgument pattern)))
      | _ => unsupported
  | "replace" => do
      match ← arguments.fit [("year", some (.int d.year)), ("month", some (.int d.month)),
          ("day", some (.int d.day))] with
      | [newYear, newMonth, newDay] => do
          let changed : Day :=
            ⟨← fieldArgument newYear, ← fieldArgument newMonth, ← fieldArgument newDay⟩
          if changed.isValid then pure (.day changed) else fault .badValue
      | _ => unsupported
  | _ => do
      arguments.finish
      match name with
      | "isoformat" => pure (.text d.toText)
      | "weekday" => pure (.int d.weekday)
      | "isoweekday" => pure (.int (d.weekday + 1))
      | "toordinal" => pure (.int d.ordinal)
      | "ctime" => pure (.ofChars (dateText (startOf d) "%a %b %e %T %Y".toList))
      | _ => unsupported

/-- A moment in the interchange form with a separator. -/
def isoText (m : Moment) (separator : String) : String := m.render separator Moment.offsetText

/-- Seconds from the start of 1970 in universal time; a moment without its distance from it counts
as universal time. -/
def timestamp (m : Moment) : Double :=
  let micro := (m.universalClock?.getD m.ownClock) - 62135683200000000
  Double.ofRatio (micro < 0) micro.natAbs 1000000

/-- The operation of a moment. -/
def momentMethod (m : Moment) (name : String) (arguments : Supplied) : Run Datum := do
  match name with
  | "strftime" => do
      match ← arguments.fit [("format", .none)] with
      | [pattern] => do pure (.ofChars (dateText m (← textArgument pattern)))
      | _ => unsupported
  | "isoformat" => do
      match ← arguments.fit [("sep", some (.text "T")), ("timespec", some (.text "auto"))] with
      | [separator, _] => do
          pure (.text (isoText m (String.ofList (← textArgument separator))))
      | _ => unsupported
  | _ => do
      arguments.finish
      match name with
      | "date" => pure (.day m.day)
      | "timestamp" => pure (.float (timestamp m))
      | "utcoffset" => pure ((m.offset.map fun n => .span (n * 60000000)).getD .none)
      | "dst" => pure .none
      | "tzname" => pure ((m.offset.map fun n => .text (zoneText n)).getD .none)
      | "ctime" => pure (.ofChars (dateText m "%a %b %e %T %Y".toList))
      | _ => dayMethod m.day name arguments

end Run

end ClientGen.Template
