import ClientGen.Failure
import ClientGen.Number.Numeral
import ClientGen.Text.CharacterName

/-!
# Symbols of template tags

What stands between the delimiters of a tag is a sequence of names, literals and marks. A closing
delimiter counts only outside brackets.
-/

namespace ClientGen.Template

/-!
## Faults of templates

A template has no result if it is malformed or asks for something that is not there, which is
reported with a detail, or if an operation of it ends in a fault.
-/

/-- Why a template has no result. -/
inductive TemplateFault where
  /-- The template is malformed or asks for something that is not there. -/
  | failed (detail : String)
  /-- An operation of the template is not defined for its operands. -/
  | fault (fault : Fault)
  deriving DecidableEq, Repr

instance : Coe String TemplateFault := ⟨.failed⟩
instance : Coe Fault TemplateFault := ⟨.fault⟩

/-- A result of a computation in a template. -/
abbrev Result (α : Type) := Except TemplateFault α

/-! ## Kinds of symbols -/

/-- A symbol. -/
inductive Symbol where
  /-- A name or a keyword. -/
  | name (text : String)
  /-- A text literal. -/
  | text (value : String)
  /-- An integer literal. -/
  | integer (value : Nat)
  /-- A floating-point literal. -/
  | decimal (value : Double)
  /-- An operator or a bracket. -/
  | mark (text : String)
  deriving DecidableEq, Repr

namespace Symbol

/-! ## Numbers -/

/-- Digits of a class with single underscores in front of further ones, and what follows them. -/
def digitRun (p : Char → Bool) : List Char → List Char × List Char
  | '_' :: c :: rest =>
      if p c then
        let (digits, rest) := digitRun p rest
        (c :: digits, rest)
      else ([], '_' :: c :: rest)
  | c :: rest =>
      if p c then
        let (digits, rest) := digitRun p rest
        (c :: digits, rest)
      else ([], c :: rest)
  | [] => ([], [])

/-- Digits with single underscores between them. -/
def digits? (p : Char → Bool) : List Char → Option (List Char × List Char)
  | c :: rest =>
      if p c then
        let (digits, rest) := digitRun p rest
        some (c :: digits, rest)
      else none
  | [] => none

/-- The exponent of a floating-point literal. -/
def exponent? : List Char → Option (Int × List Char)
  | e :: rest => do
      if e ≠ 'e' ∧ e ≠ 'E' then none
      else
        let (negative, size) := Numeral.cutSign rest
        let (digits, rest) ← digits? Text.isDecimal size
        let size : Int := Numeral.ofDigits 10 digits
        some (if negative then -size else size, rest)
  | [] => none

/-- The fraction of a floating-point literal. -/
def fraction? : List Char → Option (List Char × List Char)
  | '.' :: rest => digits? Text.isDecimal rest
  | _ => none

/-- A floating-point literal: digits with a fraction, an exponent or both. -/
def plainDecimal? (text : List Char) : Option (Symbol × List Char) := do
  let (whole, rest) ← digits? Text.isDecimal text
  let make (fraction : List Char) (power : Int) : Symbol :=
    .decimal (.ofDecimal false (Numeral.ofDigits 10 (whole ++ fraction)) (power - fraction.length))
  match fraction? rest with
  | some (fraction, rest) =>
      match exponent? rest with
      | some (power, rest) => some (make fraction power, rest)
      | none => some (make fraction 0, rest)
  | none =>
      let (power, rest) ← exponent? rest
      some (make [] power, rest)

/-- A floating-point literal. Its digits are those of ASCII: others are read but not understood. -/
def decimal? (text : List Char) : Option (Result (Symbol × List Char)) :=
  (plainDecimal? text).map fun (symbol, rest) =>
    if (text.take (text.length - rest.length)).all fun c => c.toNat < 0x80 then .ok (symbol, rest)
    else .error Fault.malformed

/-- The base that a letter after a zero announces. -/
def base? (letter : Char) : Option Nat :=
  match letter.toLower with
  | 'b' => some 2
  | 'o' => some 8
  | 'x' => some 16
  | _ => none

/-- A digit of an integer literal. The digits of all scripts count where the base has ten or
more. -/
def isDigitFor (base : Nat) (c : Char) : Bool :=
  Numeral.isDigitOf base c || (10 ≤ base && Text.isDecimal c)

/-- The integer of the digits of a literal. -/
def integerOf (base : Nat) (digits : List Char) : Symbol :=
  .integer (Numeral.ofDigits base (Numeral.plainDigits digits))

/-- An integer literal with a base. -/
def based? : List Char → Option (Symbol × List Char)
  | '0' :: letter :: rest => do
      let base ← base? letter
      match digitRun (isDigitFor base) rest with
      | ([], _) => none
      | (digits, rest) => some (integerOf base digits, rest)
  | _ => none

/-- An integer literal without a base. It starts with an ASCII digit; a zero in front is followed
by zeros only, and the number of digits has a limit. -/
def unbased? : List Char → Option (Result (Symbol × List Char))
  | c :: rest =>
      if Text.isDigit c then
        let (digits, rest) := digitRun (if c = '0' then (· == '0') else Text.isDecimal) rest
        some (if Numeral.digitLimit ≤ digits.length then .error Fault.badValue
          else .ok (integerOf 10 (c :: digits), rest))
      else none
  | [] => none

/-- An integer literal. -/
def integer? (text : List Char) : Option (Result (Symbol × List Char)) :=
  match based? text with
  | some found => some (.ok found)
  | none => unbased? text

/-! ## Text -/

/-- The value of a literal's hexadecimal escape. -/
def codeEscape (count : Nat) (text : List Char) : Result (Char × List Char) :=
  let digits := text.take count
  if digits.length = count && digits.all Text.isHexDigit then
    let code := Numeral.ofDigits 16 digits
    if code < 0x110000 then
      .ok (Char.ofNat (if 0xd800 ≤ code && code < 0xe000 then 0xfffd else code), text.drop count)
    else .error "an escape beyond the last character"
  else .error "an escape without its digits"

/-- The character of a one-letter escape. -/
def letterEscape? : Char → Option Char
  | '\\' => some '\\'
  | '\'' => some '\''
  | '"' => some '"'
  | 'a' => some '\x07'
  | 'b' => some '\x08'
  | 'f' => some '\x0c'
  | 'n' => some '\n'
  | 'r' => some '\r'
  | 't' => some '\t'
  | 'v' => some '\x0b'
  | _ => none

/-- An octal digit. -/
def isOctal (c : Char) : Bool := '0' ≤ c && c ≤ '7'

/-- What an escape by name stands for, after its letter. -/
def nameEscape : List Char → Result (List Char × List Char)
  | '\x7b' :: rest =>
      let name := rest.takeWhile (· != '\x7d')
      match Text.characterNamed? name, rest.drop name.length with
      | some found, _ :: rest => .ok ([found], rest)
      | _, _ => .error "an unknown name of a character"
  | _ => .error "an escape by name without the name"

/-- What an escape stands for, after its backslash. -/
def escape : List Char → Result (List Char × List Char)
  | [] => .error "a backslash at the end"
  | c :: rest =>
      if c = '\n' then .ok ([], rest)
      else if isOctal c then
        let digits := c :: (rest.take 2).takeWhile isOctal
        .ok ([Char.ofNat (Numeral.ofDigits 8 digits)], (c :: rest).drop digits.length)
      else if c = 'x' then (codeEscape 2 rest).map fun (d, rest) => ([d], rest)
      else if c = 'u' then (codeEscape 4 rest).map fun (d, rest) => ([d], rest)
      else if c = 'U' then (codeEscape 8 rest).map fun (d, rest) => ([d], rest)
      else if c = 'N' then nameEscape rest
      else if 0x80 ≤ c.toNat then .ok (Text.charCode c, rest)
      else match letterEscape? c with
        | some d => .ok ([d], rest)
        | none => .ok (['\\', c], rest)

/-- The text of a literal with its escapes replaced. -/
def unescape : (fuel : Nat) → List Char → Result (List Char)
  | _, [] => .ok []
  | 0, _ => .error "a literal is too long"
  | fuel + 1, '\\' :: rest => do
      let (piece, rest) ← escape rest
      .ok (piece ++ (← unescape fuel rest))
  | fuel + 1, c :: rest => do .ok (c :: (← unescape fuel rest))

/-- The text of a literal up to its closing quote, and what follows the quote. -/
def quoted? (quote : Char) : List Char → Option (List Char × List Char)
  | [] | ['\\'] => none
  | '\\' :: c :: rest => (quoted? quote rest).map fun (inner, rest) => ('\\' :: c :: inner, rest)
  | c :: rest =>
      if c = quote then some ([], rest)
      else (quoted? quote rest).map fun (inner, rest) => (c :: inner, rest)

/-! ## Names and marks -/

/-- A character of a name. -/
def isNameChar (c : Char) : Bool := Text.isWordChar c || Text.continuesIdentifier c

/-- The marks, longer ones first. -/
def marks : List String :=
  ["//", "**", "==", "!=", ">=", "<=", "+", "-", "/", "*", "%", "~", "[", "]", "(", ")", "\x7b",
    "\x7d", ">", "<", "=", ".", ":", "|", ",", ";"]

/-- The mark at the front of a text. -/
def mark? (text : List Char) : Option (String × List Char) :=
  marks.findSome? fun sign => (Text.dropLeading? sign.toList text).map fun rest => (sign, rest)

/-- The closing bracket of an opening one. -/
def partner? : String → Option String
  | "(" => some ")"
  | "[" => some "]"
  | "\x7b" => some "\x7d"
  | _ => none

/-- Whether a mark is a closing bracket. -/
def isClosing (sign : String) : Bool := sign == ")" || sign == "]" || sign == "\x7d"

/-- The brackets still to be closed after a mark. -/
def balance (sign : String) (awaited : List String) : Result (List String) :=
  match partner? sign with
  | some closing => .ok (closing :: awaited)
  | none =>
      if isClosing sign then
        match awaited with
        | closing :: awaited =>
            if closing = sign then .ok awaited else .error "brackets do not match"
        | [] => .error "a closing bracket without an opening one"
      else .ok awaited

/-! ## Sequences of symbols -/

/-- The symbol at the front of a text that starts with no white space. -/
def next (afterPoint : Bool) (text : List Char) : Result (Symbol × List Char) :=
  match (if afterPoint then none else decimal? text) <|> integer? text with
  | some found => found
  | none =>
      match text with
      | [] => .error "the template ends inside a tag"
      | c :: rest =>
          if isNameChar c then
            let name := text.takeWhile isNameChar
            if Text.isIdentifier name then
              .ok (.name (String.ofList name), text.dropWhile isNameChar)
            else .error "a name holds a character out of place"
          else
            match (if c = '\'' ∨ c = '"' then quoted? c rest else none) with
            | some (inner, rest) => do
                .ok (.text (String.ofList (← unescape inner.length inner)), rest)
            | none =>
                match mark? text with
                | some (found, rest) => .ok (.mark found, rest)
                | none => .error "a character without a meaning"

/-- The symbols up to the end of a tag, and what the end leaves of the text. `atEnd?` recognises
the end; brackets still open suspend it. -/
def untilEnd (atEnd? : List Char → Option (List Char × Bool)) :
    (fuel : Nat) → (awaited : List String) → (afterPoint : Bool) → List Char →
      Result (List Symbol × List Char × Bool)
  | 0, _, _, _ => .error "the template ends inside a tag"
  | fuel + 1, awaited, afterPoint, source =>
      match (if awaited.isEmpty then atEnd? source else none) with
      | some (rest, lineEnded) => .ok ([], rest, lineEnded)
      | none =>
          match source with
          | [] => .error "the template ends inside a tag"
          | c :: rest =>
              if Text.isBlank c then untilEnd atEnd? fuel awaited false rest
              else do
                let (symbol, rest) ← next afterPoint source
                let awaited ←
                  match symbol with
                  | .mark found => balance found awaited
                  | _ => .ok awaited
                let (symbols, found) ← untilEnd atEnd? fuel awaited (symbol == .mark ".") rest
                .ok (symbol :: symbols, found)

end Symbol

end ClientGen.Template
