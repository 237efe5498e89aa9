import ClientGen.Template.Equality
import ClientGen.Text.Search

/-!
# Data over several lines

A datum whose quoted form is too long for a line is spread over several lines: each item of a
sequence and each entry of a mapping on a line of its own, and texts in pieces. Mappings are shown
in the order of their keys.
-/

namespace ClientGen.Template

namespace Run

open Datum hiding none

/-! ## One line -/

/-- Whether one datum comes before another; data that have no order are ordered by their
classes. -/
def comesBefore (left right : Datum) : Run Bool :=
  rescue (isLess left right) (· == .badKind) do
    let rank (datum : Datum) : String := match datum with
      | .none => "NoneType"
      | .bool _ => "bool"
      | .bytes _ => "bytes"
      | .complex _ => "complex"
      | .day _ => "datetime.date"
      | .moment _ => "datetime.datetime"
      | .float _ => "float"
      | .int _ => "int"
      | .markup _ => "markupsafe.Markup"
      | .text _ => "str"
      | .tuple _ => "tuple"
      | _ => "z"
    pure (decide (rank left < rank right))

/-- Entries in the order of their keys. -/
def sortedEntries (entries : List (Datum × Datum)) : Run (List (Datum × Datum)) :=
  sortPairs comesBefore entries

/-- The quoted form of a datum on one line, mappings in the order of their keys. -/
def lineFrom : (fuel : Nat) → (around : List Place) → Datum → Run String
  | 0, _, _ => fault .endless
  | fuel + 1, around, datum =>
      match datum with
      | .tuple items => do pure (parenthesised (← items.mapM (lineFrom fuel around)))
      | .list place =>
          if around.contains place then pure "<Recursion on list>"
          else do
            let parts ← (← listAt place).toList.mapM (lineFrom fuel (place :: around))
            pure (bracketed "[" "]" parts)
      | .map place =>
          if around.contains place then pure "<Recursion on dict>"
          else do
            let parts ← (← sortedEntries (← entriesAt place).toList).mapM fun (key, value) => do
              let key ← lineFrom fuel (place :: around) key
              pure (key ++ ": " ++ (← lineFrom fuel (place :: around) value))
            pure (bracketed "\x7b" "\x7d" parts)
      | other => quotedFrom (fuel + 1) [] other

/-! ## Pieces -/

/-- The words of a text, each with the white space behind it. -/
def wordsWithGaps : (fuel : Nat) → List Char → List (List Char)
  | 0, _ => []
  | _, [] => []
  | fuel + 1, c :: rest =>
      let text := c :: rest
      let word := text.takeWhile fun d => !Text.isBlank d
      let gap := (text.drop word.length).takeWhile Text.isBlank
      (word ++ gap) :: wordsWithGaps fuel (text.drop (word.length + gap.length))

/-- Parts joined as long as the quoted form fits into a width; `spare` is what follows the last
part. -/
def joinWhileFits {α : Type} (shown : List α → String) (width spare : Int) :
    (held : List α) → List (List α) → List String
  | held, [] => if held.isEmpty then [] else [shown held]
  | held, part :: rest =>
      let candidate := held ++ part
      let limit := if rest.isEmpty then width - spare else width
      if limit < ((shown candidate).length : Int) then
        if held.isEmpty then joinWhileFits shown limit spare part rest
        else shown held :: joinWhileFits shown limit spare part rest
      else joinWhileFits shown limit spare candidate rest

/-- The quoted form of characters. -/
def quotedPart (part : List Char) : String := Value.quotedText (String.ofList part)

/-- The quoted pieces of the lines of a text. -/
def textPieces (width spare : Int) : List (List Char) → List String
  | [] => []
  | line :: rest =>
      let isLast := rest.isEmpty
      let limit := if isLast then width - spare else width
      let shown := quotedPart line
      (if (shown.length : Int) ≤ limit then [shown]
        else joinWhileFits quotedPart width (if isLast then spare else 0) []
          (wordsWithGaps line.length line)) ++ textPieces width spare rest

/-- Octets in groups of four. -/
def octetGroups : (fuel : Nat) → List UInt8 → List (List UInt8)
  | 0, _ => []
  | _, [] => []
  | fuel + 1, octets => octets.take 4 :: octetGroups fuel (octets.drop 4)

/-- Pieces on lines of their own; they stand in parentheses on demand. -/
def stacked (inParentheses : Bool) (indent : Nat) (pieces : List String) : String :=
  let shown := Text.joinStrings ("\n" ++ String.ofList (List.replicate indent ' ')) pieces
  if inParentheses then "(" ++ shown ++ ")" else shown

/-! ## Several lines -/

/-- The length of a line. -/
def lineLength : Int := 80

/-- A datum from a column on: `spare` characters follow it, and `level` others are around it. -/
def prettyFrom : (fuel : Nat) → (around : List Place) → (indent spare level : Nat) → Datum →
    Run String
  | 0, _, _, _, _, _ => fault .endless
  | fuel + 1, around, indent, spare, level, datum => do
      let line ← lineFrom greatestDepth around datum
      let gap := ",\n" ++ String.ofList (List.replicate (indent + 1) ' ')
      let sequence (around : List Place) (opening closing : String) (items : List Datum) :
          Run String := do
        let last := items.length - 1
        let parts ← items.zipIdx.mapM fun (item, position) =>
          prettyFrom fuel around (indent + 1) (if position = last then spare + closing.length else 1)
            (level + 1) item
        pure (opening ++ Text.joinStrings gap parts ++ closing)
      if (line.length : Int) ≤ lineLength - indent - spare then pure line
      else
        match datum with
        | .map place => do
            if around.contains place then pure line
            else
              let entries ← sortedEntries (← entriesAt place).toList
              let last := entries.length - 1
              let parts ← entries.zipIdx.mapM fun ((key, value), position) => do
                let name ← lineFrom greatestDepth (place :: around) key
                let shown ← prettyFrom fuel (place :: around) (indent + 1 + name.length + 2)
                  (if position = last then spare + 1 else 1) (level + 1) value
                pure (name ++ ": " ++ shown)
              pure ("\x7b" ++ Text.joinStrings gap parts ++ "\x7d")
        | .list place => do
            if around.contains place then pure line
            else sequence (place :: around) "[" "]" (← listAt place).toList
        | .set place => do
            let members := (← membersAt place).toList
            if members.isEmpty then pure line
            else
              let sorted ← sortPairs comesBefore (members.map fun member => (member, member))
              sequence around "\x7b" "\x7d" (sorted.map (·.2))
        | .tuple items => sequence around "(" (if items.length = 1 then ",)" else ")") items
        | .text s =>
            let isOutermost := level = 0
            let column := if isOutermost then indent + 1 else indent
            let spare := if isOutermost then spare + 1 else spare
            let pieces := textPieces (lineLength - column) spare (Text.lines true s.toList)
            match pieces with
            | [only] => pure only
            | _ => pure (stacked isOutermost column pieces)
        | .bytes octets =>
            if octets.length ≤ 4 then pure line
            else
              let isOutermost := level = 0
              let column := if isOutermost then indent + 1 else indent
              let spare := if isOutermost then spare + 1 else spare
              let groups := octetGroups octets.length octets
              let groups := if octets.length % 4 = 0 then groups ++ [[]] else groups
              let pieces := joinWhileFits Value.quotedBytes (lineLength - column) spare [] groups
              pure (stacked isOutermost column pieces)
        | _ => pure line

/-- A datum over as many lines as it takes. -/
def pretty (datum : Datum) : Run String := prettyFrom greatestDepth [] 0 0 0 datum

end Run

end ClientGen.Template
