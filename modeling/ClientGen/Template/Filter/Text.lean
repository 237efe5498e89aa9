import ClientGen.Template.Arithmetic
import ClientGen.Template.Method.Collection
import ClientGen.Template.Method.Node
import ClientGen.Template.Pretty
import ClientGen.Text.WebLink
import ClientGen.Text.Wrapping

/-!
# Filters of texts

Filters that make a text of a datum: its spelling, its layout, its escapes.
-/

namespace ClientGen.Template

namespace Run

open Datum hiding none

/-! ## Filters with parameters -/

/-- A filter of the datum alone. -/
def plainFilter (body : Datum → Run Datum) : Filter := fun _ datum supplied => do
  supplied.finish
  body datum

/-- A filter whose arguments are passed on in the order of the parameters. -/
def fittedFilter (parameters : List (String × Option Datum))
    (body : Machine → Datum → List Datum → Run Datum) : Filter := fun machine datum supplied => do
  body machine datum (← supplied.fit parameters)

/-- A change of a datum's text. -/
def textFilter (change : List Char → List Char) : Filter := plainFilter fun datum => do
  pure (datum.likeText (change (← softChars datum)))

/-- Whether printed text is escaped. -/
def isEscaping : Run Bool := fun store => .ok (store.isEscaping, store)

/-- Text that needs no escapes where text is escaped. -/
def contextText (text : String) : Run Datum := do
  pure (if ← isEscaping then .markup text else .text text)

/-- The text that a datum has to be; other data lack the operations of texts. -/
def textOrMember (datum : Datum) : Run (List Char) :=
  match datum, datum.text? with
  | .undefined what, _ => missing what
  | _, some s => pure s.toList
  | _, .none => fault .missingMember

/-! ## Spelling -/

/-- A character that words of a title stand between. -/
def isTitleBreak (c : Char) : Bool := Text.isBlank c || ['-', '(', '{', '[', '<'].contains c

/-- Each word with a capital in front and small letters behind. -/
def titled : (fuel : Nat) → List Char → List Char
  | 0, text => text
  | _, [] => []
  | fuel + 1, c :: rest =>
      let isSame := fun d => isTitleBreak d == isTitleBreak c
      Text.upperChar c ++ Text.lower (rest.takeWhile isSame) ++
        titled fuel (rest.dropWhile isSame)

/-- A datum's text as a title. -/
def titleText (datum : Datum) : Run Datum := do
  let text ← softChars datum
  pure (.ofChars (titled (text.length + 1) text))

/-- A text with an old text replaced by a new one. -/
def replacedText (datum old new count : Datum) : Run Datum := do
  let count ← match count with
    | .none => pure (-1)
    | other => intArgument other
  if ← isEscaping then do
    let whole ←
      if old.isMarked || (new.isMarked && !datum.isMarked) then do
        pure (Datum.markup (← marked datum))
      else soft datum
    let chars ← softChars whole
    let new ← if whole.isMarked then do pure (← marked new).toList else softChars new
    pure (whole.likeText (Text.replaceFirst (← softChars old) new (limit chars count) chars))
  else do
    let chars := (← text datum).toList
    let old := (← text old).toList
    pure (.ofChars (Text.replaceFirst old (← text new).toList (limit chars count) chars))

/-! ## Layout -/

/-- A text with a margin in front of its lines: all but the first one and, unless that is asked
for, empty ones. -/
def indented (datum width isFirst isBlank : Datum) : Run Datum := do
  let margin ← match width, width.text? with
    | .undefined what, _ => missing what
    | _, some s => pure s.toList
    | _, .none => do pure (List.replicate (← intArgument width).toNat ' ')
  let whole ← match datum with
    | .list _ => fault .missingMember
    | .undefined what => missing what
    | _ => textArgument datum
  let lines := Text.lines false (whole ++ ['\n'])
  let shown ←
    if ← isTruthy isBlank then pure (Text.join ('\n' :: margin) lines)
    else
      let rest := lines.tail.map fun line => if line.isEmpty then line else margin ++ line
      pure (Text.join ['\n'] (lines.headD [] :: rest))
  pure (datum.likeText (if ← isTruthy isFirst then margin ++ shown else shown))

/-- A sequence cut at a length, an ending put behind it; a text is cut between words, unless words
may be broken. -/
def shortened (machine : Machine) (datum length breaksWords ending leeway : Datum) :
    Run Datum := do
  let leeway := match leeway with
    | .none => Datum.int 5
    | other => other
  let endingSize : Datum := .int (← size machine ending)
  if !(← isOrdered .atLeast length endingSize) then fault .assertion
  else if !(← isOrdered .atLeast leeway (.int 0)) then fault .assertion
  else if ← isOrdered .atMost (.int (← size machine datum)) (← operate .add length leeway) then
    pure datum
  else
    let kept ← partOf datum .none (← operate .subtract length endingSize) .none
    if ← isTruthy breaksWords then operate .add kept ending
    else
      let chars ← textOrMember kept
      let shown := ((Text.cutLast? [' '] chars).map (·.1)).getD chars
      operate .add (kept.likeText shown) ending

/-- A text in lines of a width. -/
def wrappedText (datum width breaksWords joint breaksHyphens : Datum) : Run Datum := do
  let lines := Text.lines false (← textOrMember datum)
  let joint := match joint with
    | .none => Datum.text "\n"
    | other => other
  let breaksWords ← isTruthy breaksWords
  let shown ← lines.mapM fun line => do
    let width ← match width with
      | .undefined what => missing what
      | other => intArgument other
    if width ≤ 0 then fault .badValue
    else
      pure (Text.wrapped ⟨width.toNat, breaksWords, breaksHyphens == .bool true⟩ line)
  let separator ← textOrMember joint
  let written (line : List Char) : List Char :=
    if joint.isMarked then (escapeText (String.ofList line)).toList else line
  pure (joint.likeText (Text.join separator
    (shown.map fun wrapped => Text.join separator (wrapped.map written))))

/-- A text with values filled in by position or by name. -/
def filledText (datum : Datum) (supplied : Supplied) : Run Datum := do
  if !supplied.positional.isEmpty && !supplied.named.isEmpty then
    fail "a layout takes values by position or by name"
  else
    let template ← soft datum
    let values ←
      if supplied.named.isEmpty then pure (.tuple supplied.positional)
      else newRecord supplied.named
    operate .modulo template values

/-! ## Markup and addresses -/

/-- A character that the name of an attribute cannot have. -/
def isOutsideAttribute (c : Char) : Bool := Text.isGap c || c == '/' || c == '>' || c == '='

/-- An entry as an attribute; absent values have none. -/
def attributeText? (key value : Datum) : Run (Option String) := do
  match value with
  | .none | .undefined _ => pure none
  | _ => do
      let name ← textArgument key
      if name.any isOutsideAttribute then fault .badValue
      else pure (some ((← marked key) ++ "=\"" ++ (← marked value) ++ "\""))

/-- The entries of a mapping as attributes, with a space in front on demand. -/
def attributesText (datum hasSpace : Datum) : Run Datum := do
  match datum with
  | .undefined what => missing what
  | .map place => do
      let found ← (← entriesAt place).toList.mapM fun (key, value) => attributeText? key value
      let shown := Text.joinStrings " " (found.filterMap id)
      contextText (if (← isTruthy hasSpace) && !shown.isEmpty then " " ++ shown else shown)
  | _ => fault .missingMember

/-- An octet in a web address. -/
def addressOctet (safe : List Char) (octet : UInt8) : List Char :=
  let c := Char.ofNat octet.toNat
  if Text.isAlphanumeric c || "_.-~".toList.contains c || safe.contains c then [c]
  else '%' :: Text.upper (Text.hex 2 octet.toNat)

/-- A datum in a web address: in its path, or in its query. -/
def addressText (isQuery : Bool) (datum : Datum) : Run (List Char) := do
  let octets ← match datum with
    | .bytes octets => pure octets
    | _ => do pure (Text.Utf8.encode (← softChars datum))
  let shown := octets.flatMap (addressOctet (if isQuery then [] else ['/']))
  pure (if isQuery then Text.replaceAll "%20".toList ['+'] shown else shown)

/-- A datum in a web address; pairs become a query. -/
def addressFilter (machine : Machine) (datum : Datum) : Run Datum := do
  let isSequence ← if datum.isText then pure false else match datum with
    | .stream _ | .loop _ | .node _ => pure true
    | _ => do pure (← knownSize? datum).isSome
  if isSequence then do
    let parts ← (← pairsIn machine datum).mapM fun (key, value) => do
      pure ((← addressText true key) ++ '=' :: (← addressText true value))
    pure (.ofChars (Text.join ['&'] parts))
  else do pure (.ofChars (← addressText false datum))
where
  /-- The pairs of a datum; nothing has none. -/
  pairsIn (machine : Machine) (datum : Datum) : Run (List (Datum × Datum)) :=
    match datum with
    | .undefined _ => pure []
    | _ => entriesIn machine datum

/-- Whether a text is the beginning of an address. -/
def isScheme (text : List Char) : Bool :=
  match Text.cutAt? ':' text with
  | some (name, rest) =>
      2 ≤ name.length && name.all (fun c => Text.isWordChar c || ['.', '+', '-'].contains c) &&
        rest.length ≤ 2 && rest.all (· == '/')
  | none => false

/-- A text in which addresses are links. -/
def linkedText (machine : Machine) (datum : Datum) (arguments : List Datum) : Run Datum := do
  match arguments with
  | [limit, isNotFollowed, target, relation, schemes] => do
      let words ← if ← isTruthy relation then do pure (Text.words (← textOrMember relation))
        else pure []
      let words := words.map String.ofList ++
        (if ← isTruthy isNotFollowed then ["nofollow"] else []) ++ ["noopener"]
      let relations := words.eraseDups.mergeSort (· ≤ ·)
      let relation := " rel=\"" ++ escapeText (Text.joinStrings " " relations) ++ "\""
      let target ← if ← isTruthy target then do pure (" target=\"" ++ (← marked target) ++ "\"")
        else pure ""
      let schemes ← match schemes with
        | .none => pure []
        | other => do
            (← items machine other).mapM fun scheme => do
              let chars ← textArgument scheme
              if isScheme chars then pure chars else fail "a scheme is expected"
      let limit ← boundOf limit
      let whole ← marked datum
      contextText (String.ofList
        (Text.withLinks ⟨limit, (relation ++ target).toList, schemes⟩ whole.toList))
  | _ => unsupported

/-! ## JSON -/

/-- JSON text that can stand in marked text. -/
def safeJson (text : List Char) : List Char :=
  text.flatMap fun c => if ['<', '>', '&', '\''].contains c then Json.unitEscape c.toNat else [c]

/-- The layout of JSON with a text in front of each line for each level. -/
def jsonStyle (margin : String) : Json.Style :=
  let newLine (level : Nat) : String := "\n" ++ String.join (List.replicate level margin)
  ⟨Json.quote, fun level => newLine (level + 1), fun level => "," ++ newLine (level + 1), newLine,
    ": "⟩

/-- The JSON text of a datum. -/
def jsonText (datum margin : Datum) : Run Datum := do
  let style ← match margin, margin.text? with
    | .none, _ => pure Json.compactStyle
    | .undefined what, _ => missing what
    | _, some s => pure (jsonStyle s)
    | _, .none => do
        pure (jsonStyle (String.ofList (List.replicate (← intArgument margin).toNat ' ')))
  let written ← ofResult ((Json.write style 0 (← sortedJson datum)).mapError .fault)
  pure (.markup (String.ofList (safeJson written.toList)))

/-! ## All of them -/

/-- Whether a flag is set unless an argument says so. -/
def unset : Option Datum := some (.bool false)

/-- The filters of texts. -/
def textFilters : Filters :=
  [("upper", textFilter Text.upper),
    ("lower", textFilter Text.lower),
    ("capitalize", textFilter Text.capitalize),
    ("title", plainFilter titleText),
    ("string", plainFilter soft),
    ("safe", plainFilter unescaped),
    ("escape", plainFilter fun datum => do pure (.markup (← marked datum))),
    ("e", plainFilter fun datum => do pure (.markup (← marked datum))),
    ("forceescape", plainFilter fun datum => do pure (.markup (escapeText (← text datum)))),
    ("striptags", plainFilter fun datum => do
      pure (.ofChars (Text.withoutTags (← text datum).toList))),
    ("pprint", plainFilter fun datum => do pure (.text (← pretty datum))),
    ("wordcount", plainFilter fun datum => do
      pure (.int (Text.runs Text.isWordChar (← softChars datum)).length)),
    ("urlencode", fittedFilter [] fun machine datum _ => addressFilter machine datum),
    ("trim", fittedFilter [("chars", some .none)] fun _ datum given => do
      let text ← softChars datum
      pure (datum.likeText (Text.trimWhile (← trimmed (argument given 0 .none)) text))),
    ("center", fittedFilter [("width", some (.int 80))] fun _ datum given => do
      let text ← softChars datum
      let width ← intArgument (argument given 0 .none)
      pure (datum.likeText (Text.centered width.toNat ' ' text))),
    ("replace", fittedFilter [("old", none), ("new", none), ("count", some .none)]
      fun _ datum given =>
        replacedText datum (argument given 0 .none) (argument given 1 .none)
          (argument given 2 .none)),
    ("indent", fittedFilter [("width", some (.int 4)), ("first", unset), ("blank", unset)]
      fun _ datum given =>
        indented datum (argument given 0 .none) (argument given 1 .none) (argument given 2 .none)),
    ("truncate", fittedFilter [("length", some (.int 255)), ("killwords", unset),
        ("end", some (.text "...")), ("leeway", some .none)] fun machine datum given =>
      shortened machine datum (argument given 0 .none) (argument given 1 .none)
        (argument given 2 .none) (argument given 3 .none)),
    ("wordwrap", fittedFilter [("width", some (.int 79)), ("break_long_words", some (.bool true)),
        ("wrapstring", some .none), ("break_on_hyphens", some (.bool true))] fun _ datum given =>
      wrappedText datum (argument given 0 .none) (argument given 1 .none)
        (argument given 2 .none) (argument given 3 .none)),
    ("format", fun _ datum supplied => filledText datum supplied),
    ("xmlattr", fittedFilter [("autospace", some (.bool true))] fun _ datum given =>
      attributesText datum (argument given 0 .none)),
    ("urlize", fittedFilter [("trim_url_limit", some .none), ("nofollow", unset),
        ("target", some .none), ("rel", some .none), ("extra_schemes", some .none)] linkedText),
    ("tojson", fittedFilter [("indent", some .none)] fun _ datum given =>
      jsonText datum (argument given 0 .none))]

end Run

end ClientGen.Template
