import ClientGen.Text.Basic

/-!
# Finding and cutting text

The places of one text in another, and the pieces of a text between such places, between white space
or between the ends of lines.
-/

namespace ClientGen.Text

/-! ## Places -/

/-- Cut a text at the first occurrence of another one. -/
def cutText? (part : List Char) : List Char → Option (List Char × List Char)
  | [] => if part.isEmpty then some ([], []) else none
  | c :: rest =>
      match dropLeading? part (c :: rest) with
      | some after => some ([], after)
      | none => (cutText? part rest).map fun (before, after) => (c :: before, after)

/-- Cut a text at the last occurrence of another one. -/
def cutLast? (part text : List Char) : Option (List Char × List Char) :=
  (cutText? part.reverse text.reverse).map fun (after, before) => (before.reverse, after.reverse)

/-- The position of the first occurrence of a text in another one. -/
def position? (part text : List Char) : Option Nat := (cutText? part text).map (·.1.length)

/-- The position of the last occurrence of a text in another one. -/
def lastPosition? (part text : List Char) : Option Nat := (cutLast? part text).map (·.1.length)

/-- The bounds of a part: negative ones count from the end, and none of them leaves the text. The
start may be past the end. -/
def partBounds (start stop : Option Int) (size : Nat) : Nat × Nat :=
  let inside (n : Int) : Nat := if n < 0 then (n + size).toNat else n.toNat
  ((start.map inside).getD 0, Nat.min ((stop.map inside).getD size) size)

/-! ## Pieces -/

/-- The pieces of a text between occurrences of another one, at most `count` cuts being made. -/
def splitText (separator : List Char) : (count : Nat) → List Char → List (List Char)
  | 0, whole => [whole]
  | count + 1, whole =>
      match cutText? separator whole with
      | some (before, after) => before :: splitText separator count after
      | none => [whole]

/-- The pieces of a text between occurrences of another one, at most `count` cuts being made from
the end on. -/
def splitTextBack (separator : List Char) (count : Nat) (whole : List Char) : List (List Char) :=
  ((splitText separator.reverse count whole.reverse).map List.reverse).reverse

/-- The words of a text, at most `count` cuts being made; what is left keeps its white space at the
end. -/
def splitBlank : (count : Nat) → (fuel : Nat) → List Char → List (List Char)
  | _, 0, _ => []
  | count, fuel + 1, whole =>
      match whole.dropWhile isBlank, count with
      | [], _ => []
      | rest, 0 => [rest]
      | rest, count + 1 =>
          rest.takeWhile (fun c => !isBlank c) ::
            splitBlank count fuel (rest.dropWhile fun c => !isBlank c)

/-- The words of a text, at most `count` cuts being made from the end on. -/
def splitBlankBack (count : Nat) (whole : List Char) : List (List Char) :=
  ((splitBlank count (whole.length + 1) whole.reverse).map List.reverse).reverse

/-- Replace the first `count` occurrences of a text. An empty text occurs around every
character. -/
def replaceFirst (old new : List Char) (count : Nat) (text : List Char) : List Char :=
  if old.isEmpty then
    let shown := text.take count
    (shown.flatMap fun c => new ++ [c]) ++ (if count > text.length then new else text.drop count)
  else join new (splitText old count text)

/-- How often a text occurs in another one, without overlap. -/
def occurrenceCount (part text : List Char) : Nat :=
  if part.isEmpty then text.length + 1 else (splitText part text.length text).length - 1

/-! ## Lines -/

/-- A character that ends a line. -/
def endsLine (c : Char) : Bool :=
  c == '\n' || c == '\r' || c == '\x0b' || c == '\x0c' || c == '\x1c' || c == '\x1d' ||
    c == '\x1e' || c == '\x85' || c == '\u2028' || c == '\u2029'

/-- The lines of a text, with the characters that end them on demand. `line` holds the characters
of the line so far, the last one first. -/
def linesFrom (keepEnds : Bool) (line : List Char) : List Char → List (List Char)
  | [] => if line.isEmpty then [] else [line.reverse]
  | '\r' :: '\n' :: rest =>
      (if keepEnds then ('\n' :: '\r' :: line).reverse else line.reverse) ::
        linesFrom keepEnds [] rest
  | c :: rest =>
      if endsLine c then
        (if keepEnds then (c :: line).reverse else line.reverse) :: linesFrom keepEnds [] rest
      else linesFrom keepEnds (c :: line) rest

/-- The lines of a text, with the characters that end them on demand. -/
def lines (keepEnds : Bool) (text : List Char) : List (List Char) := linesFrom keepEnds [] text

/-! ## Widths -/

/-- A text in the middle of a width. -/
def centered (width : Nat) (fill : Char) (text : List Char) : List Char :=
  let space := width - text.length
  let left := space / 2 + (if space % 2 = 1 && width % 2 = 1 then 1 else 0)
  List.replicate left fill ++ text ++ List.replicate (space - left) fill

/-- A text with zeros in front of it, behind its sign. -/
def zeroFilled (width : Nat) (text : List Char) : List Char :=
  let zeros := List.replicate (width - text.length) '0'
  match text with
  | '-' :: rest => '-' :: (zeros ++ rest)
  | '+' :: rest => '+' :: (zeros ++ rest)
  | rest => zeros ++ rest

/-- A text with its tabs replaced by spaces up to the next multiple of a size. -/
def expandTabs (size : Nat) : (column : Nat) → List Char → List Char
  | _, [] => []
  | column, '\t' :: rest =>
      if size = 0 then expandTabs size column rest
      else
        let count := size - column % size
        List.replicate count ' ' ++ expandTabs size (column + count) rest
  | column, c :: rest =>
      c :: expandTabs size (if c = '\n' || c = '\r' then 0 else column + 1) rest

end ClientGen.Text

/-!
## Tables of named characters

Tables give characters names. A line of such a table has entries with spaces between them; an entry
is a name, a colon and the code points that the name stands for, with plus signs between them.
-/

namespace ClientGen.Text

/-- The number that hexadecimal digits denote. -/
def hexNumber (digits : List Char) : Nat :=
  digits.foldl (fun n c => n * 16 + (digitValue c).getD 0) 0

/-- The characters that a name stands for in a line of a table. -/
def namedIn (name : List Char) : (fuel : Nat) → List Char → Option (List Char)
  | 0, _ => none
  | fuel + 1, line =>
      let entry := line.takeWhile (· != ' ')
      let rest := line.dropWhile (· != ' ')
      match dropLeading? (name ++ [':']) entry with
      | some codes => some ((splitOn '+' codes).map fun digits => Char.ofNat (hexNumber digits))
      | none => if rest.isEmpty then none else namedIn name fuel (rest.drop 1)

/-- The characters that a name stands for in a table. -/
def named? (table : List String) (name : List Char) : Option (List Char) :=
  table.findSome? fun line => namedIn name line.length line.toList

end ClientGen.Text
