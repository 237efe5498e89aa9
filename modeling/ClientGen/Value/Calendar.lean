import ClientGen.Text.Basic

/-!
# Calendar values

Days and moments of the proleptic Gregorian calendar, as documents spell them. A moment may carry
its distance from universal time in minutes.
-/

namespace ClientGen

/-- A calendar day. -/
structure Day where
  /-- Year, from one on. -/
  year : Nat
  /-- Month, from one on. -/
  month : Nat
  /-- Day of the month, from one on. -/
  day : Nat
  deriving DecidableEq, Repr, Inhabited

namespace Day

/-- Leap years are the multiples of four, except for the centuries not divisible by four hundred. -/
def isLeap (year : Nat) : Bool := year % 4 == 0 && (year % 100 != 0 || year % 400 == 0)

/-- Number of days of a month. -/
def daysIn (year month : Nat) : Nat :=
  if month = 2 then (if isLeap year then 29 else 28)
  else if month = 4 ∨ month = 6 ∨ month = 9 ∨ month = 11 then 30
  else 31

/-- Whether the calendar has the day, with years of one to four digits. -/
def isValid (d : Day) : Bool :=
  1 ≤ d.year && d.year ≤ 9999 && 1 ≤ d.month && d.month ≤ 12 && 1 ≤ d.day &&
    d.day ≤ daysIn d.year d.month

/-- Number of days of the years before a year. -/
def daysBefore (year : Nat) : Nat :=
  let past := year - 1
  past * 365 + past / 4 - past / 100 + past / 400

/-- Number of the day, from one on for the first day of the first year. -/
def ordinal (d : Day) : Nat :=
  daysBefore d.year +
    (List.range (d.month - 1)).foldr (fun m days => daysIn d.year (m + 1) + days) 0 + d.day

/-- Day of the week, from zero on for Monday. -/
def weekday (d : Day) : Nat := (d.ordinal + 6) % 7

/-- Day of the year, from one on. -/
def dayOfYear (d : Day) : Nat := d.ordinal - daysBefore d.year

/-- The month and the day at a position of a year, from zero on. -/
def monthAt (year : Nat) : (months : Nat) → (month position : Nat) → Nat × Nat
  | 0, month, position => (month, position + 1)
  | months + 1, month, position =>
      if position < daysIn year month then (month, position + 1)
      else monthAt year months (month + 1) (position - daysIn year month)

/-- The day with a number. -/
def ofOrdinal (number : Nat) : Day :=
  let guess := (number - 1) * 400 / 146097 + 1
  let year := if daysBefore (guess + 1) < number then guess + 1
    else if daysBefore guess < number then guess else guess - 1
  let (month, day) := monthAt year 12 1 (number - daysBefore year - 1)
  ⟨year, month, day⟩

/-- Year, month and day with hyphens. -/
def toText (d : Day) : String :=
  Text.joinStrings "-" [Text.decimalPadded 4 d.year, Text.decimalPadded 2 d.month,
    Text.decimalPadded 2 d.day]

end Day

/-- A moment of a day. -/
structure Moment where
  /-- The day. -/
  day : Day
  /-- Hour of the day. -/
  hour : Nat
  /-- Minute of the hour. -/
  minute : Nat
  /-- Second of the minute. -/
  second : Nat
  /-- Millionth parts of the second. -/
  micro : Nat
  /-- Minutes ahead of universal time, when they are known. -/
  offset : Option Int
  deriving DecidableEq, Repr, Inhabited

namespace Moment

/-- Whether the clock and the calendar have the moment; offsets stay within a day. -/
def isValid (m : Moment) : Bool :=
  m.day.isValid && m.hour < 24 && m.minute < 60 && m.second < 60 && m.micro < 1000000 &&
    m.offset.all fun minutes => -1440 < minutes && minutes < 1440

/-- Millionth parts of a second from the start of the calendar, on the moment's own clock. -/
def ownClock (m : Moment) : Int :=
  ((((m.day.ordinal * 24 + m.hour) * 60 + m.minute) * 60 + m.second) * 1000000 + m.micro : Nat)

/-- Millionth parts of a second from the start of the calendar in universal time, when the distance
from it is known. -/
def universalClock? (m : Moment) : Option Int :=
  m.offset.map fun minutes => m.ownClock - minutes * 60000000

/-- The moment at a number of millionth parts of a second from the start of the calendar. -/
def ofClock (micro : Int) (offset : Option Int) : Moment :=
  let n := micro.toNat
  ⟨.ofOrdinal (n / 86400000000), n / 3600000000 % 24, n / 60000000 % 60, n / 1000000 % 60,
    n % 1000000, offset⟩

/-- Whether two moments are the same: in universal time if its distance is known for both. -/
def same (a b : Moment) : Bool :=
  match a.universalClock?, b.universalClock? with
  | some x, some y => x == y
  | none, none => a.ownClock == b.ownClock
  | _, _ => false

/-- An offset with its sign, as hours and minutes. -/
def offsetText (minutes : Int) : String :=
  (if minutes < 0 then "-" else "+") ++ Text.decimalPadded 2 (minutes.natAbs / 60) ++ ":" ++
    Text.decimalPadded 2 (minutes.natAbs % 60)

/-- Time of day, with the millionth parts when there are any. -/
def clockText (m : Moment) : String :=
  Text.joinStrings ":" [Text.decimalPadded 2 m.hour, Text.decimalPadded 2 m.minute,
    Text.decimalPadded 2 m.second] ++
    (if m.micro = 0 then "" else "." ++ Text.decimalPadded 6 m.micro)

/-- Day and time with a separator, and the offset as `zone` spells it. -/
def render (separator : String) (zone : Int → String) (m : Moment) : String :=
  m.day.toText ++ separator ++ m.clockText ++ (m.offset.map zone).getD ""

/-- Day and time with a space between them. -/
def toText (m : Moment) : String := m.render " " offsetText

/-- The interchange form: a letter between day and time, another one for universal time. -/
def toIso (m : Moment) : String :=
  m.render "T" fun minutes => if minutes = 0 then "Z" else offsetText minutes

end Moment

end ClientGen
