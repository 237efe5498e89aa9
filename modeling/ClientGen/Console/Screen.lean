import ClientGen.Text.Basic
import ClientGen.Text.CellWidth

/-!
# Text on a screen

A screen shows text in lines of a width that is counted in cells. A line that is too long is broken
between words, and a word that is longer than a line is broken wherever the line ends.
-/

namespace ClientGen.Screen

/-- Whether a character steers a screen and shows nothing. -/
def steers (c : Char) : Bool := ['\x07', '\x08', '\x0b', '\x0c', '\r'].contains c

/-- The distance between tab stops. -/
def tabWidth : Nat := 8

/-- Replace tabs by spaces up to the next tab stop; the column of the first character is given. -/
def expandTabs (column : Nat) : List Char → List Char
  | [] => []
  | c :: rest =>
      if c = '\t' then
        let gap := tabWidth - column % tabWidth
        List.replicate gap ' ' ++ expandTabs (column + gap) rest
      else c :: expandTabs (column + Text.cellWidth c) rest

/-! ## Breaking lines -/

/-- The words of a line with the blank characters behind them; the first word also has those in
front of it. -/
def wordsFrom : (fuel : Nat) → List Char → List (List Char)
  | 0, _ => []
  | fuel + 1, line =>
      let lead := line.takeWhile Text.isBlank
      let body := (line.drop lead.length).takeWhile fun c => !Text.isBlank c
      let rest := line.drop (lead.length + body.length)
      let tail := rest.takeWhile Text.isBlank
      if body.isEmpty then []
      else (lead ++ body ++ tail) :: wordsFrom fuel (rest.drop tail.length)

/-- Pieces of a text that fit in a width. `piece` is the piece so far, the last character first,
and `cells` the number of its cells. -/
def chop (width : Nat) (piece : List Char) (cells : Nat) : List Char → List (List Char)
  | [] => [piece.reverse]
  | c :: rest =>
      let size := Text.cellWidth c
      if width < cells + size then piece.reverse :: chop width [c] size rest
      else chop width (c :: piece) (cells + size) rest

/-- A line that is being filled. -/
structure Filling where
  /-- The lines before it, the last one first. -/
  done : List (List Char)
  /-- Its characters. -/
  line : List Char
  /-- The number of its cells. -/
  cells : Nat

namespace Filling

/-- A line with nothing in it. -/
def empty : Filling := ⟨[], [], 0⟩

/-- Put a word on the line. -/
def append (filling : Filling) (word : List Char) : Filling :=
  { filling with line := filling.line ++ word, cells := filling.cells + Text.cellCount word }

/-- Start a new line with a word. -/
def startWith (filling : Filling) (word : List Char) : Filling :=
  if filling.line.isEmpty then ⟨filling.done, word, Text.cellCount word⟩
  else ⟨filling.line :: filling.done, word, Text.cellCount word⟩

/-- Put a word where it fits. -/
def add (width : Nat) (filling : Filling) (word : List Char) : Filling :=
  let size := Text.cellCount (Text.trimEndWhile Text.isBlank word)
  if filling.cells + size ≤ width then filling.append word
  else if width < size then (chop width [] 0 word).foldl startWith filling
  else filling.startWith word

/-- All lines. -/
def toLines (filling : Filling) : List (List Char) := (filling.line :: filling.done).reverse

end Filling

/-- A line without the blank characters at its end that are beyond a width. -/
def cropEnd (width : Nat) (line : List Char) : List Char :=
  let blank := (line.reverse.takeWhile Text.isBlank).length
  line.take (line.length - min blank (line.length - width))

/-- The characters at the start of a line that fit in a number of cells. -/
def cropCells (cells : Nat) : List Char → List Char
  | [] => []
  | c :: rest =>
      let size := Text.cellWidth c
      if size ≤ cells then c :: cropCells (cells - size) rest else []

/-- The lines of a width that a line without tabs takes. -/
def fold (width : Nat) (line : List Char) : List (List Char) :=
  let lines := match wordsFrom (line.length + 1) line with
    | [] => [line]
    | words => (words.foldl (Filling.add width) .empty).toLines
  lines.map fun part => cropCells width (cropEnd width part)

/-- The lines that a text takes on a screen of a width. -/
def lines (width : Nat) (text : List Char) : List (List Char) :=
  (Text.splitOn '\n' (text.filter fun c => !steers c)).flatMap fun line =>
    fold width (expandTabs 0 line)

end ClientGen.Screen
