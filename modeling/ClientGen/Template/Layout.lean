import ClientGen.Number.Rounded
import ClientGen.Template.Member

/-!
# Layouts of values

Two ways to put values into a text: percent signs with a letter each, and braces with a field each.
Both lay a value out in a width, with a sign, a fill and a number of places.
-/

namespace ClientGen.Template

namespace Run

open Datum hiding none

/-! ## Parts -/

/-- The floating-point form of a number. -/
def toDouble (number : Number) : Run Double :=
  match number with
  | .float x => pure x
  | .int n =>
      let x := Double.ofInt n
      if x.isFinite then pure x else fault .overflow

/-- The floating-point form of a datum. -/
def doubleOf (datum : Datum) : Run Double :=
  match datum, datum.number? with
  | .undefined what, _ => missing what
  | _, some number => toDouble number
  | _, .none => unsupported

/-- The integer part of a floating-point number. -/
def truncated (x : Double) : Run Int :=
  match x.truncate? with
  | some n => pure n
  | .none => fault (if x = .nan then .badValue else .overflow)

/-- A letter without its case. -/
def smallLetter (c : Char) : Char := if Text.isUpper c then Char.ofNat (c.toNat + 32) else c

/-- A text in capitals, if a letter is one. -/
def capitalsFor (letter : Char) (text : List Char) : List Char :=
  if Text.isUpper letter then text.map fun c => if Text.isLower c then Char.ofNat (c.toNat - 32) else c
  else text

/-- Characters as ASCII, all others escaped. -/
def asciiOnly (text : List Char) : List Char :=
  text.flatMap fun c => if c.toNat < 0x80 then [c] else Text.charCode c

/-- The form of a floating-point number that a letter asks for. -/
def formOf? (letter : Char) : Option Double.Form :=
  match smallLetter letter with
  | 'f' => some .positional
  | 'e' => some .exponential
  | 'g' => some .general
  | _ => none

/-- The base of an integer that a letter asks for. -/
def baseOf? (letter : Char) : Option Nat :=
  match letter with
  | 'd' => some 10
  | 'x' | 'X' => some 16
  | 'o' => some 8
  | 'b' => some 2
  | _ => none

/-- The digits of a natural number. -/
def digitsIn (base n : Nat) : Run (List Char) :=
  if base = 10 then do pure (← numeral n).toList else pure (Nat.toDigits base n)

/-! ## Percent signs -/

/-- How a percent sign lays out a value. -/
structure Percent where
  /-- The key of the value in a mapping. -/
  key : Option (List Char)
  /-- The characters that set the layout. -/
  flags : List Char
  /-- The least number of characters; none if an argument has it. -/
  width : Option Nat
  /-- The number of places or characters, if it is given; the inner one is none if an argument has
  it. -/
  places : Option (Option Nat)
  /-- The letter that says what kind of value it is. -/
  letter : Char

/-- The key in parentheses after a percent sign; parentheses inside of it are in pairs. -/
def cutKey (depth : Nat) (key : List Char) : List Char → Option (List Char × List Char)
  | [] => none
  | ')' :: rest =>
      match depth with
      | 0 => some (key.reverse, rest)
      | depth + 1 => cutKey depth (')' :: key) rest
  | '(' :: rest => cutKey (depth + 1) ('(' :: key) rest
  | c :: rest => cutKey depth (c :: key) rest

/-- A number or a star. -/
def cutSize (text : List Char) : Option Nat × List Char :=
  match text with
  | '*' :: rest => (none, rest)
  | _ => (some (Numeral.ofDigits 10 (text.takeWhile Text.isDigit)), text.dropWhile Text.isDigit)

/-- The layout after a percent sign, and the rest of the text. -/
def cutPercent (text : List Char) : Run (Percent × List Char) := do
  let (key, rest) ← match text with
    | '(' :: rest => do
        let (key, rest) ← orFault .badValue (cutKey 0 [] rest)
        pure (some key, rest)
    | _ => pure (none, text)
  let isFlag := fun c => "-+ #0".toList.contains c
  let flags := rest.takeWhile isFlag
  let (width, rest) := cutSize (rest.dropWhile isFlag)
  let (places, rest) := match rest with
    | '.' :: rest =>
        let (places, rest) := cutSize rest
        (some places, rest)
    | _ => (none, rest)
  let rest := match rest with
    | 'h' :: rest | 'l' :: rest | 'L' :: rest => rest
    | _ => rest
  match rest with
  | letter :: rest => pure (⟨key, flags, width, places, letter⟩, rest)
  | [] => fault .badValue

/-- A value with its sign and its mark in a width. -/
def laidOut (flags : List Char) (isNumber : Bool) (width : Nat) (sign mark body : List Char) :
    List Char :=
  let space := width - (sign.length + mark.length + body.length)
  if isNumber && flags.contains '0' then
    sign ++ mark ++ (if flags.contains '-' then body ++ List.replicate space ' '
      else List.replicate space '0' ++ body)
  else if flags.contains '-' then sign ++ mark ++ body ++ List.replicate space ' '
  else List.replicate space ' ' ++ sign ++ mark ++ body

/-- The sign of a number. -/
def signFor (flags : List Char) (isNegative : Bool) : List Char :=
  if isNegative then ['-'] else if flags.contains '+' then ['+']
  else if flags.contains ' ' then [' '] else []

/-- The integer that a value is, for a base. -/
def integerFor (letter : Char) (datum : Datum) : Run Int :=
  match datum, datum.number? with
  | _, some (.int n) => pure n
  | .undefined what, _ => if letter = 'd' then missing what else unsupported
  | _, some (.float x) => if letter = 'd' then truncated x else unsupported
  | _, .none => unsupported

/-- A character by its number. -/
def characterOf (n : Int) : Run (List Char) :=
  if 0 ≤ n && n < 0x110000 then pure [Char.ofNat n.toNat] else fault .overflow

/-- A value in the layout of a percent sign. -/
def percentValue (isMarked : Bool) (flags : List Char) (width : Nat) (places : Option Nat)
    (letter : Char) (datum : Datum) : Run (List Char) := do
  let cut (s : List Char) : List Char :=
    match places with
    | some count => s.take count
    | .none => s
  let plain (s : List Char) : List Char := laidOut flags false width [] [] s
  let letter := if letter = 'i' || letter = 'u' then 'd' else letter
  if letter = 's' then
    pure (plain (cut (← if isMarked then marked datum else text datum).toList))
  else if letter = 'r' || letter = 'a' then do
    let shown := (← quoted datum)
    let shown := (if isMarked then escapeText shown else shown).toList
    pure (plain (cut (if letter = 'a' then asciiOnly shown else shown)))
  else if letter = 'c' then
    match datum.text?.map String.toList, datum with
    | some [c], _ => pure (plain [c])
    | some _, _ => unsupported
    | _, .bool _ | _, .int _ => do pure (plain (← characterOf (datum.int?.getD 0)))
    | _, _ => unsupported
  else
    match (if letter = 'b' then Option.none else baseOf? letter), formOf? letter with
    | some base, _ => do
        let n ← integerFor letter datum
        let digits ← digitsIn base n.natAbs
        let digits := List.replicate ((places.getD 0) - digits.length) '0' ++ digits
        let mark := if flags.contains '#' && base != 10 then ['0', letter] else []
        pure (laidOut flags true width (signFor flags (n < 0)) mark (capitalsFor letter digits))
    | _, some form => do
        let x ← doubleOf datum
        let size := x.sizeIn form (flags.contains '#') (places.getD 6)
        pure (laidOut flags true width (signFor flags x.isNegative) [] (capitalsFor letter size))
    | _, _ => fault .badValue

/-- Whether values can be asked for by key. -/
def givesByKey (datum : Datum) : Bool :=
  match datum with
  | .map _ | .list _ | .range .. | .bytes _ | .undefined _ | .current _ => true
  | _ => false

/-- The next value and those after it. -/
def takeValue (values : List Datum) : Run (Datum × List Datum) :=
  match values with
  | value :: rest => pure (value, rest)
  | [] => unsupported

/-- A size that an argument may have. -/
def takeSize (size : Option Nat) (values : List Datum) : Run (Int × List Datum) := do
  match size with
  | some n => pure ((n : Int), values)
  | .none => do
      let (value, rest) ← takeValue values
      match value.int? with
      | some n => pure (n, rest)
      | .none => unsupported

/-- Fill values into a text with percent signs, by position or by key. -/
def percentFrom (isMarked : Bool) (source : Option Datum) :
    (fuel : Nat) → (values : List Datum) → List Char → Run (List Char × List Datum)
  | 0, values, _ => pure ([], values)
  | _, values, [] => pure ([], values)
  | fuel + 1, values, '%' :: '%' :: rest => do
      let (shown, left) ← percentFrom isMarked source fuel values rest
      pure ('%' :: shown, left)
  | fuel + 1, values, '%' :: rest => do
      let (percent, rest) ← cutPercent rest
      let values ← match percent.key, source with
        | some key, some mapping => do pure [← strictItem mapping (.ofChars key)]
        | some _, .none => unsupported
        | .none, _ => pure values
      let (width, values) ← takeSize percent.width values
      let (places, values) ← match percent.places with
        | some size => do
            let (n, values) ← takeSize size values
            pure (some n.toNat, values)
        | .none => pure (.none, values)
      let flags := if width < 0 then '-' :: percent.flags else percent.flags
      let (value, values) ← takeValue values
      let first ← percentValue isMarked flags width.natAbs places percent.letter value
      let (shown, left) ← percentFrom isMarked source fuel values rest
      pure (first ++ shown, left)
  | fuel + 1, values, c :: rest => do
      let (shown, left) ← percentFrom isMarked source fuel values rest
      pure (c :: shown, left)

/-- A text with percent signs and the values filled in: the items of a tuple or a single value. All
of them have to be used, unless they can be asked for by key. -/
def percentFormat (isMarked : Bool) (template : List Char) (values : Datum) : Run (List Char) := do
  let arguments := match values with
    | .tuple items => items
    | .group key items => [key, items]
    | other => [other]
  let source := if givesByKey values then some values else none
  let (shown, left) ← percentFrom isMarked source (template.length + 1) arguments template
  if left.isEmpty || source.isSome then pure shown else unsupported

/-! ## Fields in braces -/

/-- How a field lays out a value. -/
structure Field where
  /-- The fill character, if it is given. -/
  fill : Option Char
  /-- Where the value stands, if that is given. -/
  align : Option Char
  /-- The sign character, if it is given. -/
  sign : Option Char
  /-- Whether the mark of the base or the point is always written. -/
  isMarked : Bool
  /-- Whether the width is filled with zeros. -/
  isZeroFilled : Bool
  /-- The least number of characters. -/
  width : Nat
  /-- The mark between groups of digits. -/
  separator : Option Char
  /-- The number of places or characters. -/
  places : Option Nat
  /-- The letter that says what kind of value it is. -/
  letter : Option Char
  deriving Repr

/-- A character that says where a value stands. -/
def isAlign (c : Char) : Bool := c == '<' || c == '>' || c == '=' || c == '^'

/-- The fill and the place of a value. -/
def cutAlign : List Char → Option Char × Option Char × List Char
  | fill :: align :: rest =>
      if isAlign align then (some fill, some align, rest)
      else if isAlign fill then (none, some fill, align :: rest)
      else (none, none, fill :: align :: rest)
  | [align] => if isAlign align then (none, some align, []) else (none, none, [align])
  | [] => (none, none, [])

/-- A character that may stand in front of a text, and the rest. -/
def cutFlag (isFlag : Char → Bool) : List Char → Option Char × List Char
  | c :: rest => if isFlag c then (some c, rest) else (none, c :: rest)
  | [] => (none, [])

/-- Whether the digits of a kind of value can have a mark between groups. -/
def admitsGroups (separator : Option Char) (letter : Char) : Bool :=
  "defgEG%F".toList.contains letter || (separator == some '_' && "boxX".toList.contains letter)

/-- The layout that a field asks for. -/
def fieldOf (text : List Char) : Run Field := do
  let (fill, align, rest) := cutAlign text
  let (sign, rest) := cutFlag (fun c => c == '+' || c == '-' || c == ' ') rest
  let (mark, rest) := cutFlag (· == '#') rest
  let (zero, rest) := if fill.isSome then (none, rest) else cutFlag (· == '0') rest
  let width := Numeral.ofDigits 10 (rest.takeWhile Text.isDigit)
  let (separator, rest) :=
    cutFlag (fun c => c == ',' || c == '_') (rest.dropWhile Text.isDigit)
  let (places, rest) ← match rest with
    | '.' :: rest =>
        let digits := rest.takeWhile Text.isDigit
        if digits.isEmpty then fault .badValue
        else pure (some (Numeral.ofDigits 10 digits), rest.dropWhile Text.isDigit)
    | _ => pure (none, rest)
  let make (letter : Option Char) : Field :=
    ⟨fill, align, sign, mark.isSome, zero.isSome, width, separator, places, letter⟩
  match rest with
  | [] => pure (make none)
  | [letter] =>
      if separator.isSome && !admitsGroups separator letter then fault .badValue
      else pure (make (some letter))
  | _ => fault .badValue

/-- A value in its width: `standard` is where it stands without an order. -/
def Field.place (field : Field) (standard : Char) (lead body : List Char) : List Char :=
  let space := field.width - (lead.length + body.length)
  let fill := field.fill.getD (if field.isZeroFilled then '0' else ' ')
  let filled (count : Nat) : List Char := List.replicate count fill
  match field.align.getD standard with
  | '<' => lead ++ body ++ filled space
  | '^' => filled (space / 2) ++ lead ++ body ++ filled (space - space / 2)
  | '=' => lead ++ filled space ++ body
  | _ => filled space ++ lead ++ body

/-- Digits in groups from the right, the last digit first. -/
def groupsBack (size : Nat) (separator : Char) : (position : Nat) → List Char → List Char
  | _, [] => []
  | position, c :: rest =>
      if position = size then separator :: c :: groupsBack size separator 1 rest
      else c :: groupsBack size separator (position + 1) rest

/-- Digits in groups. -/
def grouped (size : Nat) (separator : Char) (digits : List Char) : List Char :=
  (groupsBack size separator 0 digits.reverse).reverse

/-- Digits in groups that reach a width, zeros in front. -/
def groupedTo (size : Nat) (separator : Char) (width : Nat) : (fuel : Nat) → List Char → List Char
  | 0, digits => grouped size separator digits
  | fuel + 1, digits =>
      let shown := grouped size separator digits
      if width ≤ shown.length then shown else groupedTo size separator width fuel ('0' :: digits)

/-- A number in its layout: sign, mark, integer digits and what follows them. -/
def Field.number (field : Field) (isNegative : Bool) (mark digits tail : List Char)
    (groupSize : Nat) : List Char :=
  let sign := if isNegative then ['-'] else match field.sign with
    | some '+' => ['+']
    | some ' ' => [' ']
    | _ => []
  let lead := sign ++ mark
  let isZeroed := field.isZeroFilled && field.align.isNone || field.align == some '=' &&
    (field.fill == some '0' || (field.fill.isNone && field.isZeroFilled))
  let body := match field.separator with
    | some separator =>
        let width := if isZeroed then field.width - lead.length - tail.length else 0
        if digits.isEmpty then [] else groupedTo groupSize separator width field.width digits
    | .none => digits
  field.place (if field.isZeroFilled then '=' else '>') lead (body ++ tail)

/-- A text in its layout. -/
def Field.text (field : Field) (text : List Char) : Run (List Char) :=
  if field.letter.any (· != 's') || field.sign.isSome || field.isMarked || field.separator.isSome ||
      field.align == some '=' then fault .badValue
  else
    let shown := match field.places with
      | some count => text.take count
      | .none => text
    pure (field.place '<' [] shown)

/-- A number with a point behind its first digits. -/
def pointed (size : List Char) : List Char :=
  let whole := size.takeWhile Text.isDigit
  if whole.isEmpty || size.contains '.' then size else whole ++ '.' :: size.drop whole.length

/-- A floating-point number in its layout. -/
def Field.double (field : Field) (x : Double) : Run (List Char) := do
  let letter := field.letter.getD 'r'
  let isPercent := letter == '%'
  let value := if isPercent then x.mul (Double.ofInt 100) else x
  let size ← match letter, formOf? letter, field.places with
    | 'r', _, .none =>
        let shown := value.abs.toText.toList
        pure (if field.isMarked then pointed shown else shown)
    | 'r', _, some places => pure (value.sizeIn .decimal field.isMarked places)
    | '%', _, places => pure (value.sizeIn .positional field.isMarked (places.getD 6))
    | 'n', _, places => pure (value.sizeIn .general field.isMarked (places.getD 6))
    | _, some form, places => pure (value.sizeIn form field.isMarked (places.getD 6))
    | _, _, _ => fault .badValue
  let size := capitalsFor letter size
  let digits := size.takeWhile Text.isDigit
  let tail := size.dropWhile Text.isDigit ++ (if isPercent then ['%'] else [])
  pure (field.number value.isNegative [] digits tail 3)

/-- An integer in its layout. -/
def Field.integer (field : Field) (n : Int) : Run (List Char) := do
  let letter := field.letter.getD 'd'
  if (formOf? letter).isSome || letter = '%' then
    field.double (← toDouble (.int n))
  else if field.places.isSome then fault .badValue
  else if letter = 'c' then
    if field.sign.isSome || field.isMarked then fault .badValue
    else pure (field.place '<' [] (← characterOf n))
  else
    match baseOf? (if letter = 'n' then 'd' else letter) with
    | some base => do
        let digits ← digitsIn base n.natAbs
        let mark := if field.isMarked && base != 10 then ['0', letter] else []
        pure (field.number (n < 0) mark (capitalsFor letter digits) [] (if base = 10 then 3 else 4))
    | .none => fault .badValue

/-! ## Calendar values -/

/-- The names of the days of the week, from Monday on. -/
def dayNames : List String :=
  ["Monday", "Tuesday", "Wednesday", "Thursday", "Friday", "Saturday", "Sunday"]

/-- The names of the months. -/
def monthNames : List String :=
  ["January", "February", "March", "April", "May", "June", "July", "August", "September",
    "October", "November", "December"]

/-- The first three letters of a name. -/
def shortName (name : String) : String := String.ofList (name.toList.take 3)

/-- An offset without a colon. -/
def offsetDigits (minutes : Int) : String :=
  String.ofList ((Moment.offsetText minutes).toList.filter (· != ':'))

/-- What a letter after a percent sign stands for in a pattern of dates. -/
def datePart? (m : Moment) (letter : Char) : Option String :=
  let d := m.day
  let two := Text.decimalPadded 2
  let weekday := dayNames.getD d.weekday ""
  let month := monthNames.getD (d.month - 1) ""
  let hour := if m.hour % 12 = 0 then 12 else m.hour % 12
  match letter with
  | 'Y' => some (toString d.year)
  | 'y' => some (two (d.year % 100))
  | 'C' => some (two (d.year / 100))
  | 'm' => some (two d.month)
  | 'd' => some (two d.day)
  | 'e' => some (String.ofList (List.replicate (if d.day < 10 then 1 else 0) ' ') ++ toString d.day)
  | 'H' => some (two m.hour)
  | 'I' => some (two hour)
  | 'M' => some (two m.minute)
  | 'S' => some (two m.second)
  | 'f' => some (Text.decimalPadded 6 m.micro)
  | 'p' => some (if m.hour < 12 then "AM" else "PM")
  | 'j' => some (Text.decimalPadded 3 d.dayOfYear)
  | 'a' => some (shortName weekday)
  | 'A' => some weekday
  | 'b' | 'h' => some (shortName month)
  | 'B' => some month
  | 'w' => some (toString ((d.weekday + 1) % 7))
  | 'u' => some (toString (d.weekday + 1))
  | 'U' => some (two ((d.dayOfYear + 6 - (d.weekday + 1) % 7) / 7))
  | 'W' => some (two ((d.dayOfYear + 6 - d.weekday) / 7))
  | 'z' => some ((m.offset.map offsetDigits).getD "")
  | 'Z' => some ((m.offset.map zoneText).getD "")
  | 'F' => some (d.toText)
  | 'T' | 'X' => some (two m.hour ++ ":" ++ two m.minute ++ ":" ++ two m.second)
  | 'R' => some (two m.hour ++ ":" ++ two m.minute)
  | 'D' | 'x' => some (two d.month ++ "/" ++ two d.day ++ "/" ++ two (d.year % 100))
  | 'n' => some "\n"
  | 't' => some "\t"
  | '%' => some "%"
  | _ => none

/-- A moment in a pattern of percent signs with letters. -/
def dateText (m : Moment) : List Char → List Char
  | '%' :: 'c' :: rest =>
      let clock := fun letter => ((datePart? m letter).getD "").toList
      clock 'a' ++ [' '] ++ clock 'b' ++ [' '] ++ clock 'e' ++ [' '] ++ clock 'T' ++ [' '] ++
        clock 'Y' ++ dateText m rest
  | '%' :: letter :: rest =>
      match datePart? m letter with
      | some part => part.toList ++ dateText m rest
      | none => '%' :: letter :: dateText m rest
  | c :: rest => c :: dateText m rest
  | [] => []

/-- The first moment of a day. -/
def startOf (d : Day) : Moment := ⟨d, 0, 0, 0, 0, none⟩

/-! ## Values of fields -/

/-- A value as a field asks for. -/
def fieldText (spec : List Char) (datum : Datum) : Run (List Char) := do
  if spec.isEmpty then do pure (← text datum).toList
  else
    match datum with
    | .text s | .markup s => do (← fieldOf spec).text s.toList
    | .scalarKind kind => do (← fieldOf spec).text (kindMember kind).toList
    | .bool b => do (← fieldOf spec).integer (Value.ofBool b)
    | .int n => do (← fieldOf spec).integer n
    | .float x => do (← fieldOf spec).double x
    | .day d => pure (dateText (startOf d) spec)
    | .moment m => pure (dateText m spec)
    | _ => unsupported

/-- A value changed as the letter after an exclamation mark says. -/
def converted (letter : Option Char) (datum : Datum) : Run Datum := do
  match letter with
  | .none => pure datum
  | some 's' => do pure (.text (← text datum))
  | some 'r' => do pure (.text (← quoted datum))
  | some 'a' => do pure (.ofChars (asciiOnly (← quoted datum).toList))
  | some _ => fault .badValue

/-- The steps after the first name of a field: members and items. -/
def followField (machine : Machine) : (fuel : Nat) → List Char → Datum → Run Datum
  | 0, _, _ => fault .badValue
  | _, [], datum => pure datum
  | fuel + 1, '.' :: rest, datum => do
      let isEnd := fun c => c == '.' || c == '['
      let name := rest.takeWhile fun c => !isEnd c
      if name.isEmpty then fault .badValue
      else
        match ← attribute? machine datum (String.ofList name) with
        | some found => followField machine fuel (rest.dropWhile fun c => !isEnd c) found
        | .none => fault .missingMember
  | fuel + 1, '[' :: rest, datum => do
      match Text.cutAt? ']' rest with
      | some ([], _) => fault .badValue
      | some (key, rest) =>
          let key : Datum :=
            if key.all Text.isDigit then .int (Numeral.ofDigits 10 key) else .ofChars key
          followField machine fuel rest (← strictItem datum key)
      | .none => fault .badValue
  | _, _, _ => fault .badValue

/-- How the fields without a name are counted. -/
inductive Counting where
  /-- No field has said it yet. -/
  | open
  /-- By their order; the next position is given. -/
  | ordered (next : Nat)
  /-- By numbers of their own. -/
  | numbered
  deriving DecidableEq, Repr

/-- The value of a field's name. -/
def fieldValue (machine : Machine) (positional : List Datum) (find? : String → Run (Option Datum))
    (counting : Counting) (name : List Char) : Run (Datum × Counting) := do
  let first := name.takeWhile fun c => c != '.' && c != '['
  let rest := name.dropWhile fun c => c != '.' && c != '['
  let (base, counting) ←
    if first.isEmpty then
      match counting with
      | .numbered => fault .badValue
      | .open => do pure (← orFault .missingPosition positional[0]?, Counting.ordered 1)
      | .ordered next => do
          pure (← orFault .missingPosition positional[next]?, Counting.ordered (next + 1))
    else if first.all Text.isDigit then
      match counting with
      | .ordered _ => fault .badValue
      | _ => do
          let position := Numeral.ofDigits 10 first
          pure (← orFault .missingPosition positional[position]?, Counting.numbered)
    else do pure (← orFault .missingKey (← find? (String.ofList first)), counting)
  pure (← followField machine (rest.length + 1) rest base, counting)

/-- The text of a field up to its closing brace, braces inside of it in pairs. -/
def cutField (depth : Nat) (field : List Char) : List Char → Option (List Char × List Char)
  | [] => none
  | '\x7d' :: rest =>
      match depth with
      | 0 => some (field.reverse, rest)
      | depth + 1 => cutField depth ('\x7d' :: field) rest
  | '\x7b' :: rest => cutField (depth + 1) ('\x7b' :: field) rest
  | c :: rest => cutField depth (c :: field) rest

/-- The name, the letter and the layout of a field. -/
def divideField (field : List Char) : Run (List Char × Option Char × List Char) := do
  let name := field.takeWhile fun c => c != '!' && c != ':'
  match field.dropWhile fun c => c != '!' && c != ':' with
  | '!' :: letter :: ':' :: spec => pure (name, some letter, spec)
  | ['!', letter] => pure (name, some letter, [])
  | '!' :: _ => fault .badValue
  | ':' :: spec => pure (name, none, spec)
  | _ => pure (name, none, [])

/-- A text with the values of its fields put in. The layout of a field may have fields itself. -/
def braceFrom (machine : Machine) (isMarked : Bool) (positional : List Datum)
    (find? : String → Run (Option Datum)) :
    (fuel depth : Nat) → Counting → List Char → Run (List Char × Counting)
  | 0, _, counting, _ => pure ([], counting)
  | _, 0, _, _ => fault .badValue
  | _, _, counting, [] => pure ([], counting)
  | fuel + 1, depth + 1, counting, source => do
      let again := braceFrom machine isMarked positional find? fuel
      match source with
      | '\x7b' :: '\x7b' :: rest => do
          let (shown, counting) ← again (depth + 1) counting rest
          pure ('\x7b' :: shown, counting)
      | '\x7d' :: '\x7d' :: rest => do
          let (shown, counting) ← again (depth + 1) counting rest
          pure ('\x7d' :: shown, counting)
      | '\x7b' :: rest => do
          let (field, rest) ← orFault .badValue (cutField 0 [] rest)
          let (name, letter, spec) ← divideField field
          let (value, counting) ← fieldValue machine positional find? counting name
          let value ← converted letter value
          let (spec, counting) ← again depth counting spec
          let first ←
            if isMarked then
              if value.isMarked then
                if spec.isEmpty then do pure (← marked value).toList else fault .badValue
              else do pure (escapeText (String.ofList (← fieldText spec value))).toList
            else fieldText spec value
          let (shown, counting) ← again (depth + 1) counting rest
          pure (first ++ shown, counting)
      | '\x7d' :: _ => fault .badValue
      | c :: rest => do
          let (shown, counting) ← again (depth + 1) counting rest
          pure (c :: shown, counting)
      | [] => pure ([], counting)

/-- A text with the values of its fields put in. -/
def braceFormat (machine : Machine) (isMarked : Bool) (template : List Char)
    (positional : List Datum) (find? : String → Run (Option Datum)) : Run (List Char) := do
  let (shown, _) ←
    braceFrom machine isMarked positional find? (template.length + 1) 2 .open template
  pure shown

end Run

end ClientGen.Template
