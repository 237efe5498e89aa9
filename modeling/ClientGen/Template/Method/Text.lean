import ClientGen.Template.Layout
import ClientGen.Template.Symbol
import ClientGen.Text.Charset.Octets
import ClientGen.Text.Entity
import ClientGen.Text.Letter
import ClientGen.Text.Search

/-!
# Operations of texts

What can be asked of a text. The operations of a marked text give marked texts again, and escape
what they put in.
-/

namespace ClientGen.Template

namespace Run

open Datum hiding none

/-! ## Arguments -/

/-- The text of an argument. -/
def textArgument (datum : Datum) : Run (List Char) := do
  pure (← orFault .badKind datum.text?).toList

/-- The integer of an argument. -/
def intArgument (datum : Datum) : Run Int := orFault .badKind datum.int?

/-- The text of an argument as it goes into another text: escaped, if that is marked. -/
def insertedText (receiver argument : Datum) : Run (List Char) := do
  if receiver.isMarked then pure (← marked argument).toList else textArgument argument

/-- How often at most a text is cut or replaced: a negative number sets no limit. -/
def limit (text : List Char) (n : Int) : Nat := if n < 0 then text.length + 1 else n.toNat

/-- The argument at a position, or a default. -/
def argument (arguments : List Datum) (position : Nat) (default : Datum) : Datum :=
  arguments.getD position default

/-- The part of a text that two arguments bound, from the given position on, with its start; none
if it starts behind the end. -/
def searched (text : List Char) (arguments : List Datum) : Run (Option (Nat × List Char)) := do
  let start ← boundOf (argument arguments 1 .none)
  let stop ← boundOf (argument arguments 2 .none)
  let (first, last) := Text.partBounds start stop text.length
  if last < first then pure none else pure (some (first, (text.take last).drop first))

/-! ## Classes of texts -/

/-- Whether a text has only characters of a class, and at least one. -/
def isAll (p : Char → Bool) (text : List Char) : Bool := !text.isEmpty && text.all p

/-- The classes that a text can belong to. -/
def textClass? (name : String) : Option (List Char → Bool) :=
  match name with
  | "isalnum" => some (isAll Text.isAlphanumericAny)
  | "isalpha" => some (isAll Text.isAlphabetic)
  | "isascii" => some fun text => text.all fun c => c.toNat < 0x80
  | "isdecimal" => some (isAll Text.isDecimal)
  | "isdigit" => some (isAll Text.isAnyDigit)
  | "isidentifier" => some Text.isIdentifier
  | "islower" =>
      some fun text => text.any Text.isSmall && !text.any fun c => Text.isCapital c || Text.isTitle c
  | "isnumeric" => some (isAll Text.isNumeric)
  | "isprintable" => some fun text => text.all Text.isPrintable
  | "isspace" => some (isAll Text.isBlank)
  | "istitle" => some Text.isTitleCase
  | "isupper" =>
      some fun text => text.any Text.isCapital && !text.any fun c => Text.isSmall c || Text.isTitle c
  | _ => none

/-- The changes of a text that need no arguments. -/
def textChange? (name : String) : Option (List Char → List Char) :=
  match name with
  | "capitalize" => some Text.capitalize
  | "casefold" => some Text.foldCase
  | "lower" => some Text.lower
  | "swapcase" => some Text.swapCase
  | "title" => some Text.titleCase
  | "upper" => some Text.upper
  | _ => none

/-! ## Operations -/

/-- The characters that trimming removes: those of a text, or white space. -/
def trimmed (datum : Datum) : Run (Char → Bool) :=
  match datum with
  | .none => pure Text.isBlank
  | _ => do
      let characters ← textArgument datum
      pure characters.contains

/-- A text without the characters of a class at its start, its end or both. -/
def trimmedText (name : String) (p : Char → Bool) (text : List Char) : List Char :=
  match name with
  | "lstrip" => text.dropWhile p
  | "rstrip" => Text.trimEndWhile p text
  | _ => Text.trimWhile p text

/-- A text in a width. -/
def justified (name : String) (width : Nat) (fill : List Char) (text : List Char) :
    Run (List Char) :=
  match fill with
  | [c] =>
      let space := List.replicate (width - text.length) c
      pure (match name with
        | "ljust" => text ++ space
        | "rjust" => space ++ text
        | _ => Text.centered width c text)
  | _ => unsupported

/-- Whether a text begins or ends with another one, or with one of several. -/
def meets (isEnd : Bool) (part : List Char) (datum : Datum) : Run Bool := do
  let holds (s : List Char) : Bool :=
    if isEnd then Text.startsWith s.reverse part.reverse else Text.startsWith s part
  match datum with
  | .tuple items => do pure ((← items.mapM textArgument).any holds)
  | _ => do pure (holds (← textArgument datum))

/-- The texts of the items of a datum, all of which have to be texts. -/
def joinedTexts (machine : Machine) (receiver : Datum) (argument : Datum) :
    Run (List (List Char)) := do
  (← items machine argument).mapM (insertedText receiver)

/-- A text with characters replaced by a mapping. -/
def translated (table : Datum) : List Char → Run (List Char)
  | [] => pure []
  | c :: rest => do
      let found ← rescue (strictItem table (.int c.toNat)) saysAbsent (pure (.ofChars [c]))
      let first ← match found, found.text?, found.int? with
        | .none, _, _ => pure []
        | _, some s, _ => pure s.toList
        | _, _, some n => characterOf n
        | _, _, _ => unsupported
      pure (first ++ (← translated table rest))

/-- A mapping that translates the characters of one text into those of another. -/
def translation (arguments : List Datum) : Run Datum := do
  let codes (chars : List Char) : List Datum := chars.map fun c => .int c.toNat
  match arguments with
  | [.map place] => do
      let entries ← (← entriesAt place).toList.mapM fun (key, value) => do
        match key.text?.map String.toList with
        | some [c] => pure (Datum.int c.toNat, value)
        | some _ => fault .badValue
        | .none => pure (key, value)
      newMap (← putAll entries #[]).toList
  | [from_, to_] => do
      let old ← textArgument from_
      let new ← textArgument to_
      if old.length = new.length then newMap (← putAll ((codes old).zip (codes new)) #[]).toList
      else fault .badValue
  | [from_, to_, gone] => do
      let old ← textArgument from_
      let new ← textArgument to_
      let gone ← textArgument gone
      if old.length = new.length then
        let pairs := (codes old).zip (codes new) ++ (codes gone).map fun code => (code, .none)
        newMap (← putAll pairs #[]).toList
      else fault .badValue
  | _ => unsupported

/-! ## Octets -/

/-- Whether a name, with one underscore for each run of marks, is that of the literals' escapes. -/
def isEscapeCharset (charset : List Char) : Bool :=
  Text.Charset.normalName charset = "unicode_escape".toList

/-- A character as a literal of ASCII shows it. -/
def literalChar (c : Char) : List Char :=
  if c == '\'' then [c]
  else if c.toNat < 0x7f then Value.quotedChar '\'' c
  else Text.charCode c

/-- The octets of a text. -/
def encoded (text charset remedy : List Char) : Run Datum := do
  if isEscapeCharset charset then
    pure (.bytes (Text.Utf8.encode (text.flatMap literalChar)))
  else
    let found ← orFault .unknownCharset (Text.Charset.ofName? charset)
    match found.encode (.ofName (String.ofList remedy)) text with
    | .ok octets => pure (.bytes octets)
    | .error reason => fault reason

/-- The text of octets. -/
def decoded (octets : List UInt8) (charset remedy : List Char) : Run Datum := do
  if octets.isEmpty then pure (.text "")
  else if isEscapeCharset charset then
    let text := octets.map fun octet => Char.ofNat octet.toNat
    match Symbol.unescape text.length text with
    | .ok shown => pure (.ofChars shown)
    | .error _ => fault .undecodable
  else
    let found ← orFault .unknownCharset (Text.Charset.ofName? charset)
    match found.decodeWith (.ofName (String.ofList remedy)) octets with
    | .ok shown => pure (.ofChars shown)
    | .error reason => fault reason

/-! ## Places and pieces -/

/-- The places of a text in a receiver: first or last, and a fault on demand. -/
def placeOf (name : String) (text : List Char) (arguments : List Datum) : Run Datum := do
  let part ← textArgument (argument arguments 0 .none)
  let isLast := name == "rfind" || name == "rindex"
  let found ← match ← searched text arguments with
    | some (start, shown) =>
        let place := if isLast then Text.lastPosition? part shown else Text.position? part shown
        pure (place.map (· + start))
    | .none => pure none
  match found with
  | some position => pure (.int position)
  | .none => if name == "index" || name == "rindex" then fault .badValue else pure (.int (-1))

/-- The pieces of a text around the first or last occurrence of another one. -/
def partitioned (receiver : Datum) (isLast : Bool) (text separator : List Char) : Run Datum := do
  let shown (s : List Char) : Datum := receiver.likeText s
  if separator.isEmpty then fault .badValue
  else
    match if isLast then Text.cutLast? separator text else Text.cutText? separator text with
    | some (before, after) => pure (.tuple [shown before, shown separator, shown after])
    | .none =>
        pure (.tuple (if isLast then [shown [], shown [], shown text]
          else [shown text, shown [], shown []]))

/-- The pieces of a text between separators or white space. -/
def divided (receiver : Datum) (isBack : Bool) (text : List Char) (separator count : Datum) :
    Run Datum := do
  let count := limit text (← intArgument count)
  let pieces ← match separator with
    | .none =>
        pure (if isBack then Text.splitBlankBack count text
          else Text.splitBlank count (text.length + 1) text)
    | _ => do
        let separator ← textArgument separator
        if separator.isEmpty then fault .badValue
        else pure (if isBack then Text.splitTextBack separator count text
          else Text.splitText separator count text)
  newList (pieces.map receiver.likeText)

/-- The operation of a text, whose arguments are all given by position. -/
def positionalTextMethod (machine : Machine) (receiver : Datum) (text : List Char)
    (name : String) (arguments : Supplied) : Run Datum := do
  let like (s : List Char) : Datum := receiver.likeText s
  match name with
  | "strip" | "lstrip" | "rstrip" => do
      let given ← arguments.only 0 1
      pure (like (trimmedText name (← trimmed (argument given 0 .none)) text))
  | "startswith" | "endswith" => do
      let given ← arguments.only 1 3
      let part ← searched text given
      let isEnd := name == "endswith"
      match part with
      | some (_, shown) => do pure (.bool (← meets isEnd shown (argument given 0 .none)))
      | .none => do
          let _ ← meets isEnd [] (argument given 0 .none)
          pure (.bool false)
  | "removeprefix" => do
      let lead ← textArgument (argument (← arguments.only 1 1) 0 .none)
      pure (like ((Text.dropLeading? lead text).getD text))
  | "removesuffix" => do
      let tail ← textArgument (argument (← arguments.only 1 1) 0 .none)
      let rest := Text.dropLeading? tail.reverse text.reverse
      pure (like ((rest.map List.reverse).getD text))
  | "replace" => do
      let given ← arguments.only 2 3
      let old ← textArgument (argument given 0 .none)
      let new ← insertedText receiver (argument given 1 .none)
      let count ← intArgument (argument given 2 (.int (-1)))
      pure (like (Text.replaceFirst old new (limit text count) text))
  | "join" => do
      let pieces ← joinedTexts machine receiver (argument (← arguments.only 1 1) 0 .none)
      pure (like (Text.join text pieces))
  | "find" | "rfind" | "index" | "rindex" => do placeOf name text (← arguments.only 1 3)
  | "count" => do
      let given ← arguments.only 1 3
      let part ← textArgument (argument given 0 .none)
      match ← searched text given with
      | some (_, shown) => pure (.int (Text.occurrenceCount part shown))
      | .none => pure (.int 0)
  | "zfill" => do
      let width ← intArgument (argument (← arguments.only 1 1) 0 .none)
      pure (like (Text.zeroFilled width.toNat text))
  | "center" | "ljust" | "rjust" => do
      let given ← arguments.only 1 2
      let width ← intArgument (argument given 0 .none)
      let fill ← insertedText receiver (argument given 1 (.text " "))
      pure (like (← justified name width.toNat fill text))
  | "partition" | "rpartition" => do
      let separator ← textArgument (argument (← arguments.only 1 1) 0 .none)
      partitioned receiver (name == "rpartition") text separator
  | "translate" => do
      pure (like (← translated (argument (← arguments.only 1 1) 0 .none) text))
  | "maketrans" => do translation (← arguments.only 1 3)
  | "unescape" => do
      arguments.finish
      pure (.ofChars (Text.withoutReferences text))
  | "striptags" => do
      arguments.finish
      pure (.ofChars (Text.withoutTags text))
  | "escape" => do pure (.markup (← marked (argument (← arguments.only 1 1) 0 .none)))
  | _ => unsupported

/-- The operation of a text. -/
def textMethod (machine : Machine) (receiver : Datum) (text : List Char) (name : String)
    (arguments : Supplied) : Run Datum := do
  match textClass? name, textChange? name with
  | some holds, _ => do
      arguments.finish
      pure (.bool (holds text))
  | _, some change => do
      arguments.finish
      pure (receiver.likeText (change text))
  | _, _ =>
      match name with
      | "split" | "rsplit" => do
          match ← arguments.fit [("sep", some .none), ("maxsplit", some (.int (-1)))] with
          | [separator, count] => divided receiver (name == "rsplit") text separator count
          | _ => unsupported
      | "splitlines" => do
          match ← arguments.fit [("keepends", some (.bool false))] with
          | [keepEnds] => do
              let keepsEnds := (← intArgument keepEnds) != 0
              newList ((Text.lines keepsEnds text).map receiver.likeText)
          | _ => unsupported
      | "expandtabs" => do
          match ← arguments.fit [("tabsize", some (.int 8))] with
          | [size] => do
              pure (receiver.likeText (Text.expandTabs (← intArgument size).toNat 0 text))
          | _ => unsupported
      | "encode" => do
          match ← arguments.fit
              [("encoding", some (.text "utf-8")), ("errors", some (.text "strict"))] with
          | [charset, remedy] => do
              encoded text (← textArgument charset) (← textArgument remedy)
          | _ => unsupported
      | "format" => do
          let shown ← braceFormat machine receiver.isMarked text arguments.positional
            fun field => pure (arguments.find? field)
          pure (receiver.likeText shown)
      | "format_map" => do
          let mapping := argument (← arguments.only 1 1) 0 .none
          let shown ← braceFormat machine receiver.isMarked text []
            fun field => do pure (some (← strictItem mapping (.text field)))
          pure (receiver.likeText shown)
      | _ => positionalTextMethod machine receiver text name arguments

end Run

end ClientGen.Template
