import ClientGen.Failure
import ClientGen.Number.Numeral
import ClientGen.Number.Shortest
import ClientGen.Text.Printable

/-!
# Written forms of values

Two forms serve messages and free text: the quoted form shows a value with the quotes and escapes
of a literal, and the plain form is the same except that text stands for itself.
-/

namespace ClientGen

namespace Value

/-! ## Quoted text -/

/-- The quote of a literal: double when the text has single quotes and no double ones. -/
def quoteFor (text : List Char) : Char :=
  if text.contains '\'' && !text.contains '"' then '"' else '\''

/-- One character inside quotes. -/
def quotedChar (quote c : Char) : List Char :=
  if c = quote || c = '\\' then ['\\', c]
  else if c = '\n' then ['\\', 'n']
  else if c = '\r' then ['\\', 'r']
  else if c = '\t' then ['\\', 't']
  else if Text.isPrintable c then [c]
  else Text.charCode c

/-- A text between quotes. -/
def quotedText (text : String) : String :=
  let chars := text.toList
  let quote := quoteFor chars
  String.ofList (quote :: chars.flatMap (quotedChar quote) ++ [quote])

/-- One octet inside quotes. -/
def quotedOctet (quote : Char) (octet : UInt8) : List Char :=
  let c := Char.ofNat octet.toNat
  if octet < 0x80 then quotedChar quote c else Text.charCode (Char.ofNat octet.toNat)

/-- Binary data between quotes. -/
def quotedBytes (octets : List UInt8) : String :=
  let quote := quoteFor (octets.map fun octet => Char.ofNat octet.toNat)
  String.ofList ('b' :: quote :: octets.flatMap (quotedOctet quote) ++ [quote])

/-! ## Calendar values -/

/-- A call form: a name and its arguments. -/
def callText (name : String) (arguments : List String) : String :=
  name ++ "(" ++ Text.joinStrings ", " arguments ++ ")"

/-- A day as a constructor call. -/
def quotedDay (d : Day) : String :=
  callText "datetime.date" [toString d.year, toString d.month, toString d.day]

/-- An offset as a constructor call: whole days down, then seconds up. -/
def quotedOffset (minutes : Int) : String :=
  if minutes = 0 then "datetime.timezone.utc"
  else
    let days := Int.fdiv minutes 1440
    let seconds := Int.fmod minutes 1440 * 60
    let parts := (if days = 0 then [] else ["days=" ++ toString days]) ++
      (if seconds = 0 then [] else ["seconds=" ++ toString seconds])
    callText "datetime.timezone" [callText "datetime.timedelta" parts]

/-- A moment as a constructor call, without zero seconds and millionth parts at the end. -/
def quotedMoment (m : Moment) : String :=
  let clock :=
    if m.micro ≠ 0 then [m.second, m.micro] else if m.second ≠ 0 then [m.second] else []
  let zone := match m.offset with
    | none => []
    | some minutes => ["tzinfo=" ++ quotedOffset minutes]
  callText "datetime.datetime"
    (([m.day.year, m.day.month, m.day.day, m.hour, m.minute] ++ clock).map toString ++ zone)

/-! ## Values -/

mutual

/-- The quoted form of a value. -/
def quoted : Value → String
  | .null => "None"
  | .bool b => if b then "True" else "False"
  | .int n => toString n
  | .float x => x.toText
  | .text s => quotedText s
  | .bytes octets => quotedBytes octets
  | .day d => quotedDay d
  | .moment m => quotedMoment m
  | .list items => "[" ++ Text.joinStrings ", " (quotedItems items) ++ "]"
  | .pair key value => "(" ++ quoted key ++ ", " ++ quoted value ++ ")"
  | .set [] => "set()"
  | .set items => "\x7b" ++ Text.joinStrings ", " (quotedItems items) ++ "\x7d"
  | .map entries => "\x7b" ++ Text.joinStrings ", " (quotedEntries entries) ++ "\x7d"
  | .recurring (.map _) => "\x7b...\x7d"
  | .recurring _ => "[...]"

/-- The quoted forms of the items of a sequence. -/
def quotedItems : List Value → List String
  | [] => []
  | item :: rest => quoted item :: quotedItems rest

/-- The quoted forms of entries, key and value with a colon between them. -/
def quotedEntries : List (Value × Value) → List String
  | [] => []
  | (key, value) :: rest => (quoted key ++ ": " ++ quoted value) :: quotedEntries rest

end

/-- The plain form of a value. -/
def toText : Value → String
  | .text s => s
  | .day d => d.toText
  | .moment m => m.toText
  | value => quoted value

mutual

/-- Whether the numerals of all integers in a value are not too long to be written. -/
def isWritable : Value → Bool
  | .int n => Numeral.isWritable n
  | .list items => areWritable items
  | .pair key value => isWritable key && isWritable value
  | .set items => areWritable items
  | .map entries => areWritableEntries entries
  | _ => true

/-- Whether the numerals in all items can be written. -/
def areWritable : List Value → Bool
  | [] => true
  | item :: rest => isWritable item && areWritable rest

/-- Whether the numerals in all entries can be written. -/
def areWritableEntries : List (Value × Value) → Bool
  | [] => true
  | (key, value) :: rest => isWritable key && isWritable value && areWritableEntries rest

end

/-- The plain form of a value; it is a fault if a numeral in it is too long to be written. -/
def written (value : Value) : Except Fault String :=
  if value.isWritable then .ok value.toText else .error .badValue

/-- The plain form of a value, or a text in its place where the value is absent. -/
def writtenOr (default : String) : Option Value → Except Fault String
  | none => .ok default
  | some value => value.written

/-- The plain form of a value, unless it is absent or null. -/
def writtenGiven (value : Option Value) : Except Fault (Option String) :=
  match given? value with
  | none => .ok none
  | some value => value.written.map some

end Value

end ClientGen
