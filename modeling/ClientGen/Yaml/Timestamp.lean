import ClientGen.Json.Reader
import ClientGen.Value.Calendar

/-!
# Timestamps

The days and moments of YAML texts. Reading a timestamp only divides it into its numbers; whether
the calendar has the day is asked afterwards.
-/

namespace ClientGen.Yaml

/-- A day or a moment as it is written. -/
inductive Timestamp where
  /-- A day. -/
  | day (value : Day)
  /-- A moment. -/
  | moment (value : Moment)
  deriving DecidableEq, Repr

namespace Timestamp

/-- Exactly `count` digits. -/
def digits? (count : Nat) (text : List Char) : Option (Nat × List Char) :=
  let digits := text.take count
  if digits.length = count && digits.all Text.isDigit then
    some (Json.digitsValue digits, text.drop count)
  else none

/-- One or two digits. -/
def oneOrTwo? (text : List Char) : Option (Nat × List Char) :=
  match digits? 2 text with
  | some found => some found
  | none => digits? 1 text

/-- What follows a character. -/
def after? (c : Char) : List Char → Option (List Char)
  | d :: rest => if d = c then some rest else none
  | [] => none

/-- A number of one or two digits after a character. -/
def oneOrTwoAfter? (c : Char) (text : List Char) : Option (Nat × List Char) :=
  (after? c text).bind oneOrTwo?

/-- A number of two digits after a character. -/
def twoAfter? (c : Char) (text : List Char) : Option (Nat × List Char) :=
  (after? c text).bind (digits? 2)

/-- Year, month and day with hyphens. -/
def date? (text : List Char) : Option (Day × List Char) := do
  let (year, rest) ← digits? 4 text
  let (month, rest) ← oneOrTwoAfter? '-' rest
  let (number, rest) ← oneOrTwoAfter? '-' rest
  some (⟨year, month, number⟩, rest)

/-- A space or a tab. -/
def isWhite (c : Char) : Bool := c == ' ' || c == '\t'

/-- What separates a day from the time: a letter or white space. -/
def separator? : List Char → Option (List Char)
  | [] => none
  | c :: rest =>
      if c = 'T' || c = 't' then some rest
      else if isWhite c then some (rest.dropWhile isWhite)
      else none

/-- The millionth parts of a fraction; further digits are dropped. -/
def micro (digits : List Char) : Nat :=
  let shown := digits.take 6
  Json.digitsValue (shown ++ List.replicate (6 - shown.length) '0')

/-- A fraction, if there is one. -/
def fraction (text : List Char) : Nat × List Char :=
  match text with
  | '.' :: rest => (micro (rest.takeWhile Text.isDigit), rest.dropWhile Text.isDigit)
  | _ => (0, text)

/-- The offset at the end of a moment: none, universal time, or hours and minutes. -/
def offset? (text : List Char) : Option (Option Int) :=
  match text, text.dropWhile isWhite with
  | [], _ => some none
  | _, ['Z'] => some (some 0)
  | _, sign :: rest =>
      if sign = '+' || sign = '-' then do
        let (hours, rest) ← oneOrTwo? rest
        let minutes ←
          match rest with
          | [] => some 0
          | _ =>
              match twoAfter? ':' rest with
              | some (minutes, []) => some minutes
              | _ => none
        let size : Int := hours * 60 + minutes
        some (some (if sign = '-' then -size else size))
      else none
  | _, [] => none

/-- The time of a moment. -/
def time? (date : Day) (text : List Char) : Option Moment := do
  let rest ← separator? text
  let (hour, rest) ← oneOrTwo? rest
  let (minute, rest) ← twoAfter? ':' rest
  let (second, rest) ← twoAfter? ':' rest
  let (micro, rest) := fraction rest
  let offset ← offset? rest
  some ⟨date, hour, minute, second, micro, offset⟩

/-- The timestamp that a text spells. -/
def read? (text : List Char) : Option Timestamp := do
  let (date, rest) ← date? text
  if rest.isEmpty then some (.day date) else (time? date rest).map .moment

/-- Whether a text is a timestamp without saying so: a day then needs two digits for its month. -/
def isImplicit (text : List Char) : Bool :=
  match read? text with
  | some (.day _) => text.length = 10
  | some (.moment _) => true
  | none => false

end Timestamp

end ClientGen.Yaml
