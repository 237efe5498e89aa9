import ClientGen.Value.Basic

/-!
# Reading JSON

A reader for JSON text that also takes the constants `NaN`, `Infinity` and `-Infinity`. A fault is
located by the number of characters that were still to read, so that the reader itself never
counts. In an object the last value of a repeated name wins and stays at the place of the first.
-/

namespace ClientGen.Json

/-! ## Faults -/

/-- What can be wrong with a JSON text. -/
inductive Complaint where
  /-- No value starts here. -/
  | expectedValue
  /-- No member name starts here. -/
  | expectedName
  /-- A member name without its colon. -/
  | expectedColon
  /-- Neither a comma nor the closing bracket. -/
  | expectedComma
  /-- A string without its closing quote. -/
  | unterminatedString
  /-- A control character inside a string. -/
  | controlCharacter
  /-- A backslash before a character that it does not go with. -/
  | badEscape
  /-- An escape by code unit without four hexadecimal digits. -/
  | badUnicodeEscape
  /-- Text after the value. -/
  | extraData
  /-- A byte order mark in front of the text. -/
  | byteOrderMark
  deriving DecidableEq, Repr

/-- The wording of a complaint. -/
def Complaint.message : Complaint → String
  | .expectedValue => "Expecting value"
  | .expectedName => "Expecting property name enclosed in double quotes"
  | .expectedColon => "Expecting ':' delimiter"
  | .expectedComma => "Expecting ',' delimiter"
  | .unterminatedString => "Unterminated string starting at"
  | .controlCharacter => "Invalid control character at"
  | .badEscape => "Invalid \\escape"
  | .badUnicodeEscape => "Invalid \\uXXXX escape"
  | .extraData => "Extra data"
  | .byteOrderMark => "Unexpected UTF-8 BOM (decode using utf-8-sig)"

/-- Why a JSON text cannot be read. -/
inductive Fault where
  /-- The text is malformed where `remaining` characters are left. -/
  | malformed (complaint : Complaint) (remaining : Nat)
  /-- An integer has more digits than are converted. -/
  | longInteger
  deriving DecidableEq, Repr

/-! ## Tokens -/

/-- The white space of JSON. -/
def isSpace (c : Char) : Bool := c == ' ' || c == '\t' || c == '\n' || c == '\r'

/-- Skip white space. -/
def skip (text : List Char) : List Char := text.dropWhile isSpace

/-- The code of four hexadecimal digits. -/
def unit? (a b c d : Char) : Option Nat :=
  if [a, b, c, d].all Text.isHexDigit then
    some ([a, b, c, d].foldl (fun n digit => n * 16 + (Text.digitValue digit).getD 0) 0)
  else none

/-- The first half of a surrogate pair. -/
def isHighSurrogate (code : Nat) : Bool := 0xd800 ≤ code && code < 0xdc00

/-- The second half of a surrogate pair. -/
def isLowSurrogate (code : Nat) : Bool := 0xdc00 ≤ code && code < 0xe000

/-- The characters of a list of codes. Half a surrogate pair becomes the replacement character. -/
def ofCodes : List Nat → List Char
  | [] => []
  | [code] => [single code]
  | high :: low :: rest =>
      if isHighSurrogate high && isLowSurrogate low then
        Char.ofNat (0x10000 + (high - 0xd800) * 0x400 + (low - 0xdc00)) :: ofCodes rest
      else single high :: ofCodes (low :: rest)
where
  /-- The character of a code by itself. -/
  single (code : Nat) : Char :=
    Char.ofNat (if isHighSurrogate code || isLowSurrogate code then 0xfffd else code)

/-- The character of a one-letter escape. -/
def shortEscape? : Char → Option Char
  | '"' => some '"'
  | '\\' => some '\\'
  | '/' => some '/'
  | 'b' => some '\x08'
  | 'f' => some '\x0c'
  | 'n' => some '\n'
  | 'r' => some '\r'
  | 't' => some '\t'
  | _ => none

/-- The codes of a string after its opening quote. `whole` is all that follows the quote. -/
def stringCodes (whole : List Char) : List Char → Except Fault (List Nat × List Char)
  | [] => .error (.malformed .unterminatedString (whole.length + 1))
  | '"' :: rest => .ok ([], rest)
  | ['\\'] => .error (.malformed .unterminatedString (whole.length + 1))
  | '\\' :: 'u' :: a :: b :: c :: d :: rest =>
      match unit? a b c d with
      | some code =>
          if rest.isEmpty then .error (.malformed .badUnicodeEscape 5)
          else (stringCodes whole rest).map fun (codes, rest) => (code :: codes, rest)
      | none => .error (.malformed .badUnicodeEscape (rest.length + 5))
  | '\\' :: 'u' :: rest => .error (.malformed .badUnicodeEscape (rest.length + 1))
  | '\\' :: c :: rest =>
      match shortEscape? c with
      | some d => (stringCodes whole rest).map fun (codes, rest) => (d.toNat :: codes, rest)
      | none => .error (.malformed .badEscape (rest.length + 2))
  | c :: rest =>
      if c.toNat < 0x20 then .error (.malformed .controlCharacter (rest.length + 1))
      else (stringCodes whole rest).map fun (codes, rest) => (c.toNat :: codes, rest)

/-- The rest of a string after its opening quote. -/
def string (text : List Char) : Except Fault (String × List Char) :=
  (stringCodes text text).map fun (codes, rest) =>
    (String.ofList (ofCodes codes), rest)

/-- The number that decimal digits denote. -/
def digitsValue (digits : List Char) : Nat :=
  digits.foldl (fun n digit => n * 10 + (digit.toNat - 0x30)) 0

/-- The digits of an integer part: a zero alone, or digits that do not start with one. -/
def integerDigits : List Char → Option (List Char × List Char)
  | '0' :: rest => some (['0'], rest)
  | c :: rest =>
      if Text.isDigit c then
        some (c :: rest.takeWhile Text.isDigit, rest.dropWhile Text.isDigit)
      else none
  | [] => none

/-- The digits of a fraction, if there is one. -/
def fractionDigits : List Char → Option (List Char × List Char)
  | '.' :: c :: rest =>
      if Text.isDigit c then
        some (c :: rest.takeWhile Text.isDigit, rest.dropWhile Text.isDigit)
      else none
  | _ => none

/-- An exponent, if there is one. -/
def exponent : List Char → Option (Int × List Char)
  | [] => none
  | e :: rest =>
      if e = 'e' ∨ e = 'E' then
        let (negative, digits) := match rest with
          | '-' :: digits => (true, digits)
          | '+' :: digits => (false, digits)
          | digits => (false, digits)
        let shown := digits.takeWhile Text.isDigit
        if shown.isEmpty then none
        else
          let size : Int := digitsValue shown
          some (if negative then -size else size, digits.dropWhile Text.isDigit)
      else none

/-- Most digits of an integer that is converted. -/
def digitLimit : Nat := 4300

/-- A number without its sign. -/
def unsigned (negative : Bool) (text : List Char) :
    Option (Except Fault (Value × List Char)) :=
  (integerDigits text).map fun (whole, rest) =>
    match fractionDigits rest with
    | some (fraction, rest) =>
        let digits := digitsValue (whole ++ fraction)
        match exponent rest with
        | some (power, rest) =>
            .ok (.float (.ofDecimal negative digits (power - fraction.length)), rest)
        | none => .ok (.float (.ofDecimal negative digits (-fraction.length)), rest)
    | none =>
        match exponent rest with
        | some (power, rest) => .ok (.float (.ofDecimal negative (digitsValue whole) power), rest)
        | none =>
            if whole.length > digitLimit then .error .longInteger
            else
              let size : Int := digitsValue whole
              .ok (.int (if negative then -size else size), rest)

/-- The constants, with their values. -/
def constants : List (String × Value) :=
  [("null", .null), ("true", .bool true), ("false", .bool false), ("NaN", .float .nan),
    ("Infinity", .float (.infinite false)), ("-Infinity", .float (.infinite true))]

/-- The constant that a text begins with. -/
def constant (text : List Char) : Option (Value × List Char) :=
  constants.findSome? fun (name, value) =>
    (Text.dropLeading? name.toList text).map fun rest => (value, rest)

/-- A constant or a number. -/
def plain (text : List Char) : Except Fault (Value × List Char) :=
  match constant text with
  | some found => .ok found
  | none =>
      let number := match text with
        | '-' :: rest => unsigned true rest
        | _ => unsigned false text
      number.getD (.error (.malformed .expectedValue text.length))

/-! ## Values -/

mutual

/-- The value at the front of a text. The fuel bounds the number of values and nested levels. -/
def value : (fuel : Nat) → List Char → Except Fault (Value × List Char)
  | 0, text => .error (.malformed .expectedValue text.length)
  | _ + 1, '"' :: rest =>
      (string rest).map fun (found, rest) => (.text found, rest)
  | fuel + 1, '[' :: rest =>
      match skip rest with
      | ']' :: rest => .ok (.list [], rest)
      | rest => (items fuel rest).map fun (found, rest) => (.list found, rest)
  | fuel + 1, '{' :: rest =>
      match skip rest with
      | '}' :: rest => .ok (.map [], rest)
      | rest => (members fuel rest).map fun (found, rest) => (.map (Value.ofEntries found), rest)
  | _ + 1, text => plain text

/-- The items of an array up to its closing bracket. -/
def items : (fuel : Nat) → List Char → Except Fault (List Value × List Char)
  | 0, text => .error (.malformed .expectedValue text.length)
  | fuel + 1, text => do
      let (first, rest) ← value fuel text
      match skip rest with
      | ']' :: rest => .ok ([first], rest)
      | ',' :: rest => (items fuel (skip rest)).map fun (found, rest) => (first :: found, rest)
      | rest => .error (.malformed .expectedComma rest.length)

/-- The members of an object up to its closing brace. -/
def members : (fuel : Nat) → List Char → Except Fault (List (Value × Value) × List Char)
  | 0, text => .error (.malformed .expectedName text.length)
  | fuel + 1, '"' :: text => do
      let (name, rest) ← string text
      match skip rest with
      | ':' :: rest => do
          let (first, rest) ← value fuel (skip rest)
          let entry := (Value.text name, first)
          match skip rest with
          | '}' :: rest => .ok ([entry], rest)
          | ',' :: rest =>
              (members fuel (skip rest)).map fun (found, rest) => (entry :: found, rest)
          | rest => .error (.malformed .expectedComma rest.length)
      | rest => .error (.malformed .expectedColon rest.length)
  | _ + 1, text => .error (.malformed .expectedName text.length)

end

/-- The value of a whole text. -/
def read (text : List Char) : Except Fault Value :=
  match text with
  | '\ufeff' :: _ => .error (.malformed .byteOrderMark text.length)
  | _ => do
      let (found, rest) ← value (text.length + 1) (skip text)
      match skip rest with
      | [] => .ok found
      | rest => .error (.malformed .extraData rest.length)

/-! ## Locating faults -/

/-- A complaint with its line, column and offset. -/
def located (text : List Char) (complaint : Complaint) (remaining : Nat) : String :=
  let offset := text.length - remaining
  let before := text.take offset
  let line := before.count '\n' + 1
  let column := (Text.afterLast '\n' before).length + 1
  complaint.message ++ ": line " ++ toString line ++ " column " ++ toString column ++
    " (char " ++ toString offset ++ ")"

end ClientGen.Json
