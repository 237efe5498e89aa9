import ClientGen.Failure
import ClientGen.Number.Numeral
import ClientGen.Number.Shortest

/-!
# Writing JSON

Two forms are written: the compact form keeps to ASCII and stands on one line, the indented form
writes every character as itself and puts each member on a line of its own. What JSON does not have
is not written: binary data, days, moments and sets, collections inside of themselves, and integers
with too long a numeral.
-/

namespace ClientGen.Json

/-! ## Strings -/

/-- The one-letter escapes. -/
def escapeLetter? (c : Char) : Option Char :=
  if c = '"' then some '"'
  else if c = '\\' then some '\\'
  else if c = '\n' then some 'n'
  else if c = '\r' then some 'r'
  else if c = '\t' then some 't'
  else if c = '\x0c' then some 'f'
  else if c = '\x08' then some 'b'
  else none

/-- An escape by code unit. -/
def unitEscape (code : Nat) : List Char := '\\' :: 'u' :: Text.hex 4 code

/-- The code units of a character beyond the first plane, or the character's code itself. -/
def units (c : Char) : List Nat :=
  let code := c.toNat
  if code < 0x10000 then [code]
  else [0xd800 + (code - 0x10000) / 0x400, 0xdc00 + (code - 0x10000) % 0x400]

/-- One character of an ASCII string. -/
def asciiChar (c : Char) : List Char :=
  match escapeLetter? c with
  | some letter => ['\\', letter]
  | none =>
      if 0x20 ≤ c.toNat && c.toNat < 0x7f then [c] else (units c).flatMap unitEscape

/-- One character of a string that keeps characters beyond ASCII. -/
def wideChar (c : Char) : List Char :=
  match escapeLetter? c with
  | some letter => ['\\', letter]
  | none => if c.toNat < 0x20 then unitEscape c.toNat else [c]

/-- A string literal in ASCII. -/
def quoteChars (text : List Char) : List Char := '"' :: text.flatMap asciiChar ++ ['"']

/-- A string literal in ASCII. -/
def quote (text : String) : String := String.ofList (quoteChars text.toList)

/-- A string literal that keeps characters beyond ASCII. -/
def quoteWide (text : String) : String :=
  String.ofList ('"' :: text.toList.flatMap wideChar ++ ['"'])

/-! ## Values -/

/-- The text of a float. -/
def floatText (x : Double) : String := x.render Double.jsonLayout

/-- The text of an integer. -/
def intText (n : Int) : Except ClientGen.Fault String :=
  match Numeral.text? n with
  | some text => .ok text
  | none => .error .badValue

/-- The text of a mapping key. -/
def keyText : Value → Except ClientGen.Fault String
  | .text s => .ok s
  | .null => .ok "null"
  | .bool b => .ok (if b then "true" else "false")
  | .int n => intText n
  | .float x => .ok (floatText x)
  | _ => .error .badKind

/-- How a writer spells strings and separates items. -/
structure Style where
  /-- A string literal. -/
  quote : String → String
  /-- Opens a bracket at a level of nesting. -/
  opened : Nat → String
  /-- Stands between neighbours at a level of nesting. -/
  between : Nat → String
  /-- Closes a bracket at a level of nesting. -/
  closed : Nat → String
  /-- Stands between a name and its value. -/
  colon : String

/-- ASCII on one line, a space after each comma. -/
def compactStyle : Style := ⟨quote, fun _ => "", fun _ => ", ", fun _ => "", ": "⟩

/-- All characters on one line, without spaces. -/
def denseStyle : Style := ⟨quoteWide, fun _ => "", fun _ => ",", fun _ => "", ":"⟩

/-- A line feed and some spaces for each level. -/
def lineBreak (margin level : Nat) : String :=
  "\n" ++ String.ofList (List.replicate (margin * level) ' ')

/-- One member to a line, each level indented by a margin. -/
def linedStyle (quote : String → String) (margin : Nat) : Style :=
  ⟨quote, fun level => lineBreak margin (level + 1),
    fun level => "," ++ lineBreak margin (level + 1), lineBreak margin, ": "⟩

/-- One member to a line, in ASCII. -/
def marginStyle (margin : Nat) : Style := linedStyle quote margin

/-- One member to a line, indented by two spaces. -/
def indentedStyle : Style := linedStyle quoteWide 2

/-- Bracket the written items of one level. -/
def enclose (style : Style) (level : Nat) (opening closing : String) (items : List String) :
    String :=
  if items.isEmpty then opening ++ closing
  else opening ++ style.opened level ++ Text.joinStrings (style.between level) items ++
    style.closed level ++ closing

mutual

/-- The JSON text of a value. -/
def write (style : Style) (level : Nat) : Value → Except ClientGen.Fault String
  | .null => .ok "null"
  | .bool b => .ok (if b then "true" else "false")
  | .int n => intText n
  | .float x => .ok (floatText x)
  | .text s => .ok (style.quote s)
  | .list items => do .ok (enclose style level "[" "]" (← writeItems style (level + 1) items))
  | .pair key value => do
      let first ← write style (level + 1) key
      let second ← write style (level + 1) value
      .ok (enclose style level "[" "]" [first, second])
  | .map entries => do
      .ok (enclose style level "\x7b" "\x7d" (← writeEntries style (level + 1) entries))
  | .recurring _ => .error .badValue
  | .bytes _ | .day _ | .moment _ | .set _ => .error .badKind

/-- The JSON texts of the items of a sequence. -/
def writeItems (style : Style) (level : Nat) : List Value → Except ClientGen.Fault (List String)
  | [] => .ok []
  | item :: rest => do
      let first ← write style level item
      let others ← writeItems style level rest
      .ok (first :: others)

/-- The JSON texts of members. -/
def writeEntries (style : Style) (level : Nat) : List (Value × Value) → Except ClientGen.Fault (List String)
  | [] => .ok []
  | (key, value) :: rest => do
      let name ← keyText key
      let first ← write style level value
      let others ← writeEntries style level rest
      .ok ((style.quote name ++ style.colon ++ first) :: others)

end

/-- The value on one line of ASCII. -/
def compact (value : Value) : Except ClientGen.Fault String := write compactStyle 0 value

/-- The value with one member to a line. -/
def indented (value : Value) : Except ClientGen.Fault String := write indentedStyle 0 value

end ClientGen.Json
