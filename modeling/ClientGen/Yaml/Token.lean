import ClientGen.Text.Utf8
import ClientGen.Yaml.Cursor

/-!
# Tokens of YAML

The tokens of the format, and the scanners of those that take more than one character. Each scanner
starts at the first character of its token and ends after the last.
-/

namespace ClientGen.Yaml

/-- A token. -/
inductive Token where
  /-- The version that a document claims. -/
  | versionDirective (major minor : Nat)
  /-- What a tag handle stands for. -/
  | tagDirective (handle lead : String)
  /-- A directive without a meaning. -/
  | otherDirective
  /-- The marker in front of a document. -/
  | documentStart
  /-- The marker after a document. -/
  | documentEnd
  /-- A block sequence begins. -/
  | blockSequenceStart
  /-- A block mapping begins. -/
  | blockMappingStart
  /-- A block collection ends. -/
  | blockEnd
  /-- An opening bracket. -/
  | flowSequenceStart
  /-- A closing bracket. -/
  | flowSequenceEnd
  /-- An opening brace. -/
  | flowMappingStart
  /-- A closing brace. -/
  | flowMappingEnd
  /-- A comma between the items of a flow collection. -/
  | flowEntry
  /-- The hyphen of a block sequence. -/
  | blockEntry
  /-- A key follows. -/
  | key
  /-- A value follows. -/
  | value
  /-- A node stands for one that was named before. -/
  | alias (name : String)
  /-- The node that follows gets a name. -/
  | anchor (name : String)
  /-- The node that follows gets a tag. -/
  | tag (handle : Option String) (suffix : String)
  /-- Text, written with or without quotes. -/
  | scalar (text : String) (plain : Bool)
  /-- The text ends. -/
  | streamEnd
  /-- The text cannot be divided further. -/
  | broken (fault : YamlFault)
  deriving DecidableEq, Repr

/-- A scanner. -/
abbrev Scan (α : Type) := Cursor → Except YamlFault (α × Cursor)

/-- Refuse the text. -/
def refuse {α : Type} (rule : String) : Except YamlFault α := .error (.malformed rule)

/-! ## Anchors and aliases -/

/-- The name of an anchor or alias after its indicator. -/
def scanName : Scan String := fun cursor => do
  let (name, after) := cursor.next.takeWhile isNameChar
  if name.isEmpty then refuse "a name is expected"
  else if isGap after.peek || "?:,]%@".toList.contains after.peek || after.peek == '}' ||
      after.peek.toNat == 0x60 then
    .ok (String.ofList name, after)
  else refuse "a name ends here"

/-- An anchor or an alias. -/
def scanNamed (token : String → Token) : Scan Token := fun cursor =>
  (scanName cursor).map fun (name, after) => (token name, after)

/-! ## Tags -/

/-- The octet of two hexadecimal digits. -/
def octet? (high low : Char) : Option UInt8 :=
  if Text.isHexDigit high && Text.isHexDigit low then
    some (UInt8.ofNat ((Text.digitValue high).getD 0 * 16 + (Text.digitValue low).getD 0))
  else none

/-- The octets of a run of percent escapes, and the rest. -/
def percentOctets : List Char → Except YamlFault (List UInt8 × Nat)
  | '%' :: high :: low :: rest =>
      match octet? high low with
      | some octet =>
          (percentOctets rest).map fun (octets, length) => (octet :: octets, length + 3)
      | none => refuse "a percent sign needs two hexadecimal digits"
  | '%' :: _ => refuse "a percent sign needs two hexadecimal digits"
  | _ => .ok ([], 0)

/-- A character of a tag address. -/
def isAddressChar (c : Char) : Bool :=
  Text.isAlphanumeric c || "-;/?:@&=+$,_.!~*'()[]%".toList.contains c

/-- The pieces of a tag address: runs of characters, and runs of escapes decoded. -/
def scanAddressPieces : (fuel : Nat) → Scan (List Char)
  | 0, cursor => .ok ([], cursor)
  | fuel + 1, cursor => do
      if cursor.peek == '%' then
        let (octets, length) ← percentOctets cursor.rest
        match Text.Utf8.decode? octets with
        | none => refuse "percent escapes must be text"
        | some piece =>
            let (pieces, after) ← scanAddressPieces fuel (cursor.skip length)
            .ok (piece ++ pieces, after)
      else
        let (piece, after) := cursor.takeWhile fun c => isAddressChar c && c != '%'
        if piece.isEmpty then .ok ([], cursor)
        else
          let (pieces, after) ← scanAddressPieces fuel after
          .ok (piece ++ pieces, after)

/-- A tag address, which is not empty. -/
def scanAddress : Scan String := fun cursor => do
  let (address, after) ← scanAddressPieces (cursor.left + 1) cursor
  if after.index = cursor.index then refuse "a tag address is expected"
  else .ok (String.ofList address, after)

/-- A tag handle: one exclamation mark, or a name between two. -/
def scanHandle : Scan String := fun cursor => do
  if cursor.peek != '!' then refuse "a tag handle is expected"
  else if cursor.peekAt 1 == ' ' then .ok ("!", cursor.next)
  else
    let (name, after) := cursor.next.takeWhile isNameChar
    if after.peek == '!' then .ok ("!" ++ String.ofList name ++ "!", after.next)
    else refuse "a tag handle ends with an exclamation mark"

/-- Whether a second exclamation mark follows in the same word. -/
def hasSecondMark (cursor : Cursor) : Bool :=
  ((cursor.rest.drop 1).takeWhile fun c => !isSpaceOrEnd c).contains '!'

/-- A tag. -/
def scanTag : Scan Token := fun cursor => do
  let second := cursor.peekAt 1
  let (token, after) ←
    if second == '<' then do
      let (suffix, after) ← scanAddress (cursor.skip 2)
      if after.peek == '>' then .ok (Token.tag none suffix, after.next)
      else refuse "a tag in angle brackets must be closed"
    else if isGap second then .ok (Token.tag none "!", cursor.next)
    else do
      let (handle, after) ←
        if hasSecondMark cursor then scanHandle cursor else .ok ("!", cursor.next)
      let (suffix, after) ← scanAddress after
      .ok (Token.tag (some handle) suffix, after)
  if isSpaceOrEnd after.peek then .ok (token, after) else refuse "a space must follow a tag"

/-! ## Directives -/

/-- The end of a directive line. -/
def scanLineRest : Scan Unit := fun cursor => do
  let after := cursor.skipSpaces.skipComment
  if isLineEnd after.peek then .ok ((), after.lineBreak.2)
  else refuse "a comment or a line break is expected"

/-- A number in a version. -/
def scanVersionNumber : Scan Nat := fun cursor => do
  let (digits, after) := cursor.takeWhile Text.isDigit
  if digits.isEmpty then refuse "a version number is expected"
  else .ok (Json.digitsValue digits, after)

/-- The two numbers of a version. -/
def scanVersion : Scan Token := fun cursor => do
  let (major, after) ← scanVersionNumber cursor.skipSpaces
  if after.peek != '.' then refuse "a version has two numbers"
  else
    let (minor, after) ← scanVersionNumber after.next
    if isSpaceOrEnd after.peek then .ok (.versionDirective major minor, after)
    else refuse "a space must follow a version"

/-- The handle and the address of a tag directive. -/
def scanTagDirective : Scan Token := fun cursor => do
  let (handle, after) ← scanHandle cursor.skipSpaces
  if after.peek != ' ' then refuse "a space must follow a tag handle"
  else
    let (lead, after) ← scanAddress after.skipSpaces
    if isSpaceOrEnd after.peek then .ok (.tagDirective handle lead, after)
    else refuse "a space must follow a tag address"

/-- A directive. -/
def scanDirective : Scan Token := fun cursor => do
  let (name, after) := cursor.next.takeWhile isNameChar
  if name.isEmpty then refuse "a directive name is expected"
  else if !isSpaceOrEnd after.peek then refuse "a space must follow a directive name"
  else
    let (token, after) ←
      match String.ofList name with
      | "YAML" => scanVersion after
      | "TAG" => scanTagDirective after
      | _ => .ok (.otherDirective, after.skipWhile fun c => !isBreak c)
    let (_, after) ← scanLineRest after
    .ok (token, after)

/-! ## Block scalars -/

/-- How a block scalar ends: with one line break, with none, or with all of them. -/
inductive Chomping where
  /-- One line break. -/
  | clip
  /-- No line break. -/
  | strip
  /-- Every line break. -/
  | keep
  deriving DecidableEq, Repr

/-- The chomping of an indicator. -/
def chomping? (c : Char) : Option Chomping :=
  if c = '+' then some .keep else if c = '-' then some .strip else none

/-- The indentation of an indicator. -/
def increment? (c : Char) : Option Nat :=
  if Text.isDigit c then Text.digitValue c else none

/-- The indicators after the first character of a block scalar, in either order. -/
def blockIndicators (cursor : Cursor) : Chomping × Option Nat × Cursor :=
  match chomping? cursor.peek with
  | some chomping =>
      match increment? cursor.next.peek with
      | some increment => (chomping, some increment, cursor.skip 2)
      | none => (chomping, none, cursor.next)
  | none =>
      match increment? cursor.peek with
      | some increment =>
          match chomping? cursor.next.peek with
          | some chomping => (chomping, some increment, cursor.skip 2)
          | none => (.clip, some increment, cursor.next)
      | none => (.clip, none, cursor)

/-- Spaces up to a column. -/
def skipIndent (column : Nat) : (fuel : Nat) → Cursor → Cursor
  | 0, cursor => cursor
  | fuel + 1, cursor =>
      if cursor.column < column && cursor.peek == ' ' then skipIndent column fuel cursor.next
      else cursor

/-- The empty lines before a line of a block scalar, and the place after its indentation. -/
def blockBreaks (column : Nat) : (fuel : Nat) → Cursor → List (List Char) × Cursor
  | 0, cursor => ([], cursor)
  | fuel + 1, cursor =>
      let cursor := skipIndent column column cursor
      if isBreak cursor.peek then
        let (lineBreak, after) := cursor.lineBreak
        let (breaks, after) := blockBreaks column fuel after
        (lineBreak :: breaks, after)
      else ([], cursor)

/-- The empty lines before the first line, and the greatest indentation among them and it. -/
def leadingBreaks (greatest : Nat) : (fuel : Nat) → Cursor → List (List Char) × Nat × Cursor
  | 0, cursor => ([], greatest, cursor)
  | fuel + 1, cursor =>
      if cursor.peek == ' ' then leadingBreaks (max greatest cursor.next.column) fuel cursor.next
      else if isBreak cursor.peek then
        let (lineBreak, after) := cursor.lineBreak
        let (breaks, greatest, after) := leadingBreaks greatest fuel after
        (lineBreak :: breaks, greatest, after)
      else ([], greatest, cursor)

/-- What stands between two lines: folding joins them unless one of them is indented further. -/
def lineJoint (folded leadingText nextText : Bool) (lineBreak : List Char)
    (breaks : List (List Char)) : List Char :=
  if folded && lineBreak == ['\n'] && leadingText && nextText then
    (if breaks.isEmpty then [' '] else [])
  else lineBreak

/-- The lines of a block scalar: its text, the last line break and the empty lines after it. -/
def blockLines (folded : Bool) (column : Nat) :
    (fuel : Nat) → (breaks : List (List Char)) → Cursor →
      List Char × List Char × List (List Char) × Cursor
  | 0, breaks, cursor => ([], [], breaks, cursor)
  | fuel + 1, breaks, cursor =>
      if cursor.column = column && cursor.peek != '\x00' then
        let leadingText := !(cursor.peek == ' ' || cursor.peek == '\t')
        let (line, after) := cursor.takeWhile fun c => !isBreak c
        let (lineBreak, after) := after.lineBreak
        let (next, after) := blockBreaks column (after.left + 1) after
        if after.column = column && after.peek != '\x00' then
          let nextText := !(after.peek == ' ' || after.peek == '\t')
          let joint := lineJoint folded leadingText nextText lineBreak next
          let (text, final, trailing, after) := blockLines folded column fuel next after
          (breaks.flatten ++ line ++ joint ++ text, final, trailing, after)
        else (breaks.flatten ++ line, lineBreak, next, after)
      else ([], [], breaks, cursor)

/-- A block scalar in a collection at an indentation. -/
def scanBlockScalar (indent : Int) : Scan Token := fun cursor => do
  let folded := cursor.peek == '>'
  let (chomping, increment, after) := blockIndicators cursor.next
  if increment = some 0 then refuse "the indentation of a block scalar is at least one"
  else if !isSpaceOrEnd after.peek then refuse "a block scalar starts on the next line"
  else
    let (_, after) ← scanLineRest after
    let least := (max (indent + 1) 1).toNat
    let fuel := after.left + 1
    let (column, breaks, after) :=
      match increment with
      | some increment =>
          let column := least + increment - 1
          let (breaks, after) := blockBreaks column fuel after
          (column, breaks, after)
      | none =>
          let (breaks, greatest, after) := leadingBreaks 0 fuel after
          (max least greatest, breaks, after)
    let (text, final, trailing, after) := blockLines folded column fuel breaks after
    let ending := match chomping with
      | .strip => []
      | .clip => final
      | .keep => final ++ trailing.flatten
    .ok (.scalar (String.ofList (text ++ ending)) false, after)

/-! ## Quoted scalars -/

/-- The character of a one-letter escape. -/
def escapeChar? : Char → Option Char
  | '0' => some '\x00'
  | 'a' => some '\x07'
  | 'b' => some '\x08'
  | 't' => some '\t'
  | '\t' => some '\t'
  | 'n' => some '\n'
  | 'v' => some '\x0b'
  | 'f' => some '\x0c'
  | 'r' => some '\r'
  | 'e' => some '\x1b'
  | ' ' => some ' '
  | '"' => some '"'
  | '\\' => some '\\'
  | '/' => some '/'
  | 'N' => some '\x85'
  | '_' => some '\xa0'
  | 'L' => some '\u2028'
  | 'P' => some '\u2029'
  | _ => none

/-- The number of digits of an escape by code point. -/
def escapeDigits? : Char → Option Nat
  | 'x' => some 2
  | 'u' => some 4
  | 'U' => some 8
  | _ => none

/-- The character of a code point. Codes beyond the last plane have none. -/
def ofCode (code : Nat) : Except YamlFault Char :=
  if Nat.pow 2 31 ≤ code then .error (.impossible .overflow)
  else if 0x110000 ≤ code then .error (.impossible .badValue)
  else if 0xd800 ≤ code && code < 0xe000 then .ok (Char.ofNat 0xfffd)
  else .ok (Char.ofNat code)

/-- The empty lines inside a quoted scalar. -/
def quotedBreaks : (fuel : Nat) → Scan (List (List Char))
  | 0, cursor => .ok ([], cursor)
  | fuel + 1, cursor => do
      if cursor.atDocumentMarker then refuse "a document marker inside quotes"
      else
        let cursor := cursor.skipWhile fun c => c == ' ' || c == '\t'
        if isBreak cursor.peek then
          let (lineBreak, after) := cursor.lineBreak
          let (breaks, after) ← quotedBreaks fuel after
          .ok (lineBreak :: breaks, after)
        else .ok ([], cursor)

/-- What one escape stands for, from its backslash on. -/
def scanEscape : Scan (List Char) := fun cursor => do
  let after := cursor.next
  let letter := after.peek
  match escapeChar? letter, escapeDigits? letter with
  | some c, _ => .ok ([c], after.next)
  | none, some count =>
      let digits := after.next.rest.take count
      if digits.length = count && digits.all Text.isHexDigit then
        let code := digits.foldl (fun n digit => n * 16 + (Text.digitValue digit).getD 0) 0
        let c ← ofCode code
        .ok ([c], after.next.skip count)
      else refuse "an escape needs hexadecimal digits"
  | none, none =>
      if isBreak letter then
        let (breaks, after) ← quotedBreaks (after.left + 1) after.lineBreak.2
        .ok (breaks.flatten, after)
      else refuse "an unknown escape"

/-- The white space inside a quoted scalar: a line break with its empty lines is folded. -/
def scanQuotedSpace : Scan (List Char) := fun cursor => do
  let (spaces, after) := cursor.takeWhile fun c => c == ' ' || c == '\t'
  if after.peek == '\x00' then refuse "quotes are not closed"
  else if isBreak after.peek then
    let (lineBreak, after) := after.lineBreak
    let (breaks, after) ← quotedBreaks (after.left + 1) after
    let joint :=
      if lineBreak != ['\n'] then lineBreak else if breaks.isEmpty then [' '] else []
    .ok (joint ++ breaks.flatten, after)
  else .ok (spaces, after)

/-- The text of a quoted scalar up to its closing quote. -/
def scanQuotedText (double : Bool) : (fuel : Nat) → Scan (List Char)
  | 0, _ => refuse "quotes are not closed"
  | fuel + 1, cursor => do
      let quote := if double then '"' else '\''
      let c := cursor.peek
      if !double && c == '\'' && cursor.peekAt 1 == '\'' then
        let (text, after) ← scanQuotedText double fuel (cursor.skip 2)
        .ok ('\'' :: text, after)
      else if c == quote then .ok ([], cursor.next)
      else if double && c == '\\' then
        let (piece, after) ← scanEscape cursor
        let (text, after) ← scanQuotedText double fuel after
        .ok (piece ++ text, after)
      else if isGap c then
        let (piece, after) ← scanQuotedSpace cursor
        let (text, after) ← scanQuotedText double fuel after
        .ok (piece ++ text, after)
      else
        let (text, after) ← scanQuotedText double fuel cursor.next
        .ok (c :: text, after)

/-- A quoted scalar. -/
def scanQuoted : Scan Token := fun cursor => do
  let (text, after) ← scanQuotedText (cursor.peek == '"') (cursor.left + 1) cursor.next
  .ok (.scalar (String.ofList text) false, after)

/-! ## Plain scalars -/

/-- A character that divides flow collections. -/
def isFlowMark (c : Char) : Bool := c == ',' || c == '[' || c == ']' || c == '{' || c == '}'

/-- Whether a plain scalar ends before a character, given the one after it. -/
def endsPlain (flow : Bool) (c next : Char) : Bool :=
  isGap c || (c == ':' && (isGap next || (flow && isFlowMark next))) ||
    (flow && (c == '?' || isFlowMark c))

/-- The length of the part of a plain scalar up to white space or its end. -/
def plainLength (flow : Bool) : List Char → Nat
  | [] => 0
  | c :: rest => if endsPlain flow c (rest.headD '\x00') then 0 else plainLength flow rest + 1

/-- The empty lines inside a plain scalar; none at all before a document marker. -/
def plainBreaks : (fuel : Nat) → Cursor → Option (List (List Char)) × Cursor
  | 0, cursor => (some [], cursor)
  | fuel + 1, cursor =>
      if cursor.peek == ' ' then plainBreaks fuel cursor.next
      else if isBreak cursor.peek then
        let (lineBreak, after) := cursor.lineBreak
        if after.atDocumentMarker then (none, after)
        else
          let (breaks, after) := plainBreaks fuel after
          (breaks.map (lineBreak :: ·), after)
      else (some [], cursor)

/-- The white space inside a plain scalar: its text, whether a line ended, and the place after. -/
def plainSpace (cursor : Cursor) : List Char × Bool × Cursor :=
  let (spaces, after) := cursor.takeWhile (· == ' ')
  if isBreak after.peek then
    let (lineBreak, after) := after.lineBreak
    if after.atDocumentMarker then ([], true, after)
    else
      match plainBreaks (after.left + 1) after with
      | (none, after) => ([], true, after)
      | (some breaks, after) =>
          let joint :=
            if lineBreak != ['\n'] then lineBreak else if breaks.isEmpty then [' '] else []
          (joint ++ breaks.flatten, true, after)
  else (spaces, false, after)

/-- The parts of a plain scalar after white space `spaces`: its text, and whether the last thing
before the place after it was a line end. -/
def plainParts (flow : Bool) (indent : Int) :
    (fuel : Nat) → (spaces : List Char) → (lineEnded : Bool) → Cursor → List Char × Bool × Cursor
  | 0, _, lineEnded, cursor => ([], lineEnded, cursor)
  | fuel + 1, spaces, lineEnded, cursor =>
      let length := if cursor.peek == '#' then 0 else plainLength flow cursor.rest
      if length = 0 then ([], lineEnded, cursor)
      else
        let part := spaces ++ cursor.rest.take length
        let (next, ended, after) := plainSpace (cursor.skip length)
        if next.isEmpty || after.peek == '#' || (!flow && after.column < indent + 1) then
          (part, ended, after)
        else
          let (text, ended, after) := plainParts flow indent fuel next ended after
          (part ++ text, ended, after)

/-- A plain scalar, and whether a line ended after it. -/
def scanPlain (flow : Bool) (indent : Int) (cursor : Cursor) : Token × Bool × Cursor :=
  let (text, ended, after) := plainParts flow indent (cursor.left + 1) [] false cursor
  (.scalar (String.ofList text) true, ended, after)

end ClientGen.Yaml
