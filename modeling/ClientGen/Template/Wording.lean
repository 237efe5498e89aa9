import ClientGen.Number.Numeral
import ClientGen.Template.Machine
import ClientGen.Value.Display

/-!
# Written forms of data

The plain form of a datum, in which text stands for itself, its quoted form, which shows a datum
inside of others, and its form in marked text.
-/

namespace ClientGen.Template

namespace Datum

/-! ## Marked text -/

/-- The escape of a character in marked text. -/
def escapeChar (c : Char) : List Char :=
  match c with
  | '&' => "&amp;".toList
  | '<' => "&lt;".toList
  | '>' => "&gt;".toList
  | '"' => "&#34;".toList
  | '\'' => "&#39;".toList
  | c => [c]

/-- Text with the characters escaped that mean something in marked text. -/
def escapeText (text : String) : String := String.ofList (text.toList.flatMap escapeChar)

/-! ## Parts of written forms -/

/-- A length of time as days and a clock. -/
def spanText (micro : Int) : String :=
  let days := Int.fdiv micro 86400000000
  let rest := (Int.fmod micro 86400000000).toNat
  let clock := toString (rest / 3600000000) ++ ":" ++ Text.decimalPadded 2 (rest / 60000000 % 60) ++
    ":" ++ Text.decimalPadded 2 (rest / 1000000 % 60) ++
    (if rest % 1000000 = 0 then "" else "." ++ Text.decimalPadded 6 (rest % 1000000))
  if days = 0 then clock
  else toString days ++ (if days.natAbs = 1 then " day, " else " days, ") ++ clock

/-- A length of time as a constructor call. -/
def quotedSpan (micro : Int) : String :=
  let days := Int.fdiv micro 86400000000
  let rest := Int.fmod micro 86400000000
  let seconds := rest / 1000000
  let part (name : String) (n : Int) : List String :=
    if n = 0 then [] else [name ++ "=" ++ toString n]
  let parts := part "days" days ++ part "seconds" seconds ++ part "microseconds" (rest % 1000000)
  Value.callText "datetime.timedelta" (if parts.isEmpty then ["0"] else parts)

/-- A distance from universal time. -/
def zoneText (minutes : Int) : String :=
  if minutes = 0 then "UTC" else "UTC" ++ Moment.offsetText minutes

/-- A range as a call. -/
def rangeText (start stop step : Int) : String :=
  Value.callText "range"
    ([toString start, toString stop] ++ if step = 1 then [] else [toString step])

/-- Texts in brackets with commas between them. -/
def bracketed (opening closing : String) (parts : List String) : String :=
  opening ++ Text.joinStrings ", " parts ++ closing

/-- Texts in parentheses; a comma follows a single one. -/
def parenthesised (parts : List String) : String :=
  match parts with
  | [only] => "(" ++ only ++ ",)"
  | parts => bracketed "(" ")" parts

/-- The name of a view. -/
def viewName : View → String
  | .keys => "dict_keys"
  | .values => "dict_values"
  | .entries => "dict_items"

/-- The entries that a view shows. -/
def shownBy (kind : View) (entries : List (Datum × Datum)) : List Datum :=
  match kind with
  | .keys => entries.map (·.1)
  | .values => entries.map (·.2)
  | .entries => entries.map fun (key, value) => .tuple [key, value]

end Datum

namespace Run

open Datum hiding none

/-- The greatest depth of data inside each other. -/
def greatestDepth : Nat := 400

/-- The numeral of an integer, unless it is too long. -/
def numeral (n : Int) : Run String := orFault .badValue (Numeral.text? n)

/-- The state of a loop. -/
def loopAt (place : Place) : Run LoopState := do
  match ← read place with
  | .loop state => pure state
  | _ => unsupported

/-- The number of items of a sequence that knows it. -/
def knownSize? (datum : Datum) : Run (Option Nat) := do
  match datum with
  | .undefined _ => pure (some 0)
  | .tuple items => pure (some items.length)
  | .group .. => pure (some 2)
  | .range start stop step => pure (some (rangeSize start stop step))
  | .list place => do pure (some (← listAt place).size)
  | .map place | .view _ place => do pure (some (← entriesAt place).size)
  | .set place => do pure (some (← membersAt place).size)
  | .bytes octets => pure (some octets.length)
  | _ => pure (datum.text?.map String.length)

/-- The number of items of a loop as far as it shows without taking items. -/
def shownLength (state : LoopState) : Run Int := do
  let ahead : Int := state.position + 1 + (if state.after.isSome then 1 else 0)
  match state.length, ← knownSize? state.source, ← read state.stream with
  | some length, _, _ => pure length
  | .none, some size, _ => pure size
  | .none, .none, .stream (.items rest) => pure (ahead + rest.length)
  | .none, .none, _ => pure ahead

/-- The quoted form of a datum. A datum inside of itself is shown as dots. -/
def quotedFrom : (fuel : Nat) → (around : List Place) → Datum → Run String
  | 0, _, _ => fault .endless
  | fuel + 1, around, datum =>
      let quotedAll (place : Place) (items : List Datum) : Run (List String) :=
        items.mapM (quotedFrom fuel (place :: around))
      let pairs (place : Place) (entries : List (Datum × Datum)) : Run (List String) :=
        entries.mapM fun (key, value) => do
          let key ← quotedFrom fuel (place :: around) key
          let value ← quotedFrom fuel (place :: around) value
          pure (key ++ ": " ++ value)
      match datum with
      | .undefined _ => pure "Undefined"
      | .none => pure "None"
      | .bool b => pure (if b then "True" else "False")
      | .int n => numeral n
      | .float x => pure x.toText
      | .complex z => pure z.toText
      | .text s => pure (Value.quotedText s)
      | .markup s => pure (Value.callText "Markup" [Value.quotedText s])
      | .scalarKind kind =>
          pure ("<" ++ kindMember kind ++ ": " ++ Value.quotedText kind.name ++ ">")
      | .bytes octets => pure (Value.quotedBytes octets)
      | .day d => pure (Value.quotedDay d)
      | .moment m => pure (Value.quotedMoment m)
      | .span micro => pure (quotedSpan micro)
      | .zone minutes => pure (Value.quotedOffset minutes)
      | .tuple items => do pure (parenthesised (← items.mapM (quotedFrom fuel around)))
      | .group key items => do
          pure (parenthesised [← quotedFrom fuel around key, ← quotedFrom fuel around items])
      | .range start stop step => pure (rangeText start stop step)
      | .bounds start stop step => do
          pure (Value.callText "slice" (← [start, stop, step].mapM (quotedFrom fuel around)))
      | .list place =>
          if around.contains place then pure "[...]"
          else do pure (bracketed "[" "]" (← quotedAll place (← listAt place).toList))
      | .map place =>
          if around.contains place then pure "\x7b...\x7d"
          else do pure (bracketed "\x7b" "\x7d" (← pairs place (← entriesAt place).toList))
      | .set place =>
          if around.contains place then pure "set(...)"
          else do
            match ← quotedAll place (← membersAt place).toList with
            | [] => pure "set()"
            | parts => pure (bracketed "\x7b" "\x7d" parts)
      | .view kind place => do
          let items ← (shownBy kind (← entriesAt place).toList).mapM (quotedFrom fuel around)
          pure (viewName kind ++ bracketed "([" "])" items)
      | .node place => do
          let (name, fields) ← fieldsAt place
          let parts ← fields.mapM fun (field, value) => do
            pure (field ++ "=" ++ (← quotedFrom fuel around value))
          pure (Value.callText name parts)
      | .space place => do
          match ← read place with
          | .space entries => do
              pure ("<Namespace " ++ (← if around.contains place then pure "\x7b...\x7d"
                else do pure (bracketed "\x7b" "\x7d" (← pairs place entries.toList))) ++ ">")
          | _ => unsupported
      | .stream _ => pure "<generator object>"
      | .cycler _ => pure "<Cycler object>"
      | .joiner _ => pure "<Joiner object>"
      | .procedure place => do
          match ← read place with
          | .procedure routine _ =>
              pure ("<Macro " ++ (routine.name.map Value.quotedText).getD "anonymous" ++ ">")
          | _ => unsupported
      | .loop place => do
          let state ← loopAt place
          let shown := toString (state.position + 1) ++ "/" ++ toString (← shownLength state)
          pure ("<LoopContext " ++ shown ++ ">")
      | .loaded place => do
          match ← read place with
          | .loaded name _ => pure ("<TemplateModule " ++ Value.quotedText name ++ ">")
          | _ => unsupported
      | .current _ => pure "<TemplateReference None>"
      | .block _ _ => pure "<BlockReference object>"
      | .method _ name => pure ("<built-in method " ++ name ++ ">")
      | .function name =>
          pure (if name = "lipsum" then "<function>" else "<class '" ++ name ++ "'>")
      | .type name => pure ("<class '" ++ name ++ "'>")

/-- The quoted form of a datum. -/
def quoted (datum : Datum) : Run String := quotedFrom greatestDepth [] datum

/-- The plain form of a datum. -/
def text (datum : Datum) : Run String :=
  match datum with
  | .undefined _ => pure ""
  | .text s | .markup s => pure s
  | .scalarKind kind => pure (kindMember kind)
  | .day d => pure d.toText
  | .moment m => pure m.toText
  | .span micro => pure (spanText micro)
  | .zone minutes => pure (zoneText minutes)
  | .node place => do
      let (_, fields) ← fieldsAt place
      let parts ← fields.mapM fun (name, value) => do
        pure (name ++ "=" ++ (← quotedFrom greatestDepth [] value))
      pure (Text.joinStrings " " parts)
  | .loaded place => do
      match ← read place with
      | .loaded _ printed => pure printed
      | _ => unsupported
  | other => quoted other

/-- The text that a datum is, or else its plain form. -/
def softText (datum : Datum) : Run String :=
  match datum.text? with
  | some s => pure s
  | .none => text datum

/-- A datum that is text, or else the text of its plain form. -/
def soft (datum : Datum) : Run Datum :=
  if datum.isText then pure datum else do pure (.text (← text datum))

/-- The characters of a datum's text. -/
def softChars (datum : Datum) : Run (List Char) := do pure (← softText datum).toList

/-- A datum in marked text. -/
def marked (datum : Datum) : Run String := do
  let plain ← text datum
  pure (if datum.isMarked then plain else escapeText plain)

/-- The datum as text that needs no escapes, nothing being escaped. -/
def unescaped (datum : Datum) : Run Datum := do pure (.markup (← text datum))

/-- A datum as it is printed. -/
def printed (isEscaped : Bool) (datum : Datum) : Run String :=
  if isEscaped then marked datum else text datum

end Run

end ClientGen.Template
