import ClientGen.Text.Letter
import ClientGen.Text.Search

/-!
# Wrapping text

A text is cut into chunks, which are white space, words and parts of words with hyphens, and the
chunks fill lines of a width. White space at the ends of lines is left out.
-/

namespace ClientGen.Text

/-! ## Chunks -/

/-- White space between chunks: that of ASCII. -/
def isGap (c : Char) : Bool :=
  c == ' ' || c == '\t' || c == '\n' || c == '\x0b' || c == '\x0c' || c == '\r'

/-- A character of a word or one that goes with words. -/
def isWordMark (c : Char) : Bool := isWordChar c || "!\"'&.,?".toList.contains c

/-- A character of a word that is no decimal digit. -/
def isWordLetter (c : Char) : Bool := isWordChar c && !isDecimal c

/-- Whether a text starts with two hyphens or more and a character of a word behind them. -/
def startsDash (text : List Char) : Bool :=
  2 ≤ (text.takeWhile (· == '-')).length && ((text.dropWhile (· == '-')).head?.any isWordChar)

/-- Whether the characters in front of a hyphen, the last one first, let a word break behind it. -/
def allowsBreak (before : List Char) : Bool :=
  match before with
  | a :: b :: rest =>
      (isWordLetter a && isWordLetter b) ||
        (isWordMark a && b == '-' && rest.head?.any isWordLetter)
  | _ => false

/-- Whether a text begins with two letters that may have a hyphen between them. -/
def startsSyllable (text : List Char) : Bool :=
  match text with
  | a :: '-' :: b :: _ => isWordLetter a && isWordLetter b
  | a :: b :: _ => isWordLetter a && isWordLetter b
  | _ => false

/-- The length of the word at the start of a text, up to a place where it can be broken. `before`
holds the characters in front, the last one first; `length` of them belong to the word. -/
def wordLength (before : List Char) (length : Nat) : List Char → Nat
  | [] => length
  | c :: rest =>
      if length = 0 then wordLength (c :: before) 1 rest
      else if c == '-' && allowsBreak before && startsSyllable rest then length + 1
      else if isGap c then length
      else if before.head?.any isWordMark && startsDash (c :: rest) then length
      else wordLength (c :: before) (length + 1) rest

/-- The chunks of a text, which can be broken behind hyphens. -/
def hyphenChunks : (fuel : Nat) → (before : List Char) → List Char → List (List Char)
  | 0, _, _ => []
  | _, _, [] => []
  | fuel + 1, before, c :: rest =>
      let text := c :: rest
      let size :=
        if isGap c then (text.takeWhile isGap).length
        else if before.head?.any isWordMark && startsDash text then
          (text.takeWhile (· == '-')).length
        else wordLength before 0 text
      let chunk := text.take size
      chunk :: hyphenChunks fuel (chunk.reverse ++ before) (text.drop size)

/-- The chunks of a text: its words and the white space between them. -/
def plainChunks : (fuel : Nat) → List Char → List (List Char)
  | 0, _ => []
  | _, [] => []
  | fuel + 1, c :: rest =>
      let same := fun d => isGap d == isGap c
      (c :: rest).takeWhile same :: plainChunks fuel ((c :: rest).dropWhile same)

/-- The chunks of a text. -/
def chunks (breaksHyphens : Bool) (text : List Char) : List (List Char) :=
  if breaksHyphens then hyphenChunks (text.length + 1) [] text
  else plainChunks (text.length + 1) text

/-! ## Lines -/

/-- How text is wrapped. -/
structure Wrapping where
  /-- The greatest length of a line. -/
  width : Nat
  /-- Whether words that are longer than a line are broken. -/
  breaksWords : Bool
  /-- Whether words are broken behind hyphens. -/
  breaksHyphens : Bool

/-- Fill a line with chunks, the last one first, as long as they fit. -/
def fillLine (width : Nat) (line : List (List Char)) (size : Nat) :
    List (List Char) → List (List Char) × Nat × List (List Char)
  | [] => (line, size, [])
  | chunk :: rest =>
      if size + chunk.length ≤ width then
        fillLine width (chunk :: line) (size + chunk.length) rest
      else (line, size, chunk :: rest)

/-- How much of a chunk that is longer than a line goes into the space that is left. -/
def breakAt (wrapping : Wrapping) (space : Nat) (chunk : List Char) : Nat :=
  if wrapping.breaksHyphens && space < chunk.length then
    match lastPosition? ['-'] (chunk.take space) with
    | some hyphen =>
        if 0 < hyphen && (chunk.take hyphen).any (· != '-') then hyphen + 1 else space
    | none => space
  else space

/-- Handle a chunk that is longer than a line: a part of it goes to the line, or all of it to a
line of its own. -/
def breakLong (wrapping : Wrapping) (line : List (List Char)) (size : Nat)
    (rest : List (List Char)) : List (List Char) × List (List Char) :=
  match rest with
  | [] => (line, [])
  | chunk :: others =>
      if chunk.length ≤ wrapping.width then (line, rest)
      else if wrapping.breaksWords then
        let cut := breakAt wrapping (wrapping.width - size) chunk
        (chunk.take cut :: line, chunk.drop cut :: others)
      else if line.isEmpty then ([chunk], others)
      else (line, rest)

/-- Chunks in lines. `isFirst` says that there is no line yet. -/
def fillLines (wrapping : Wrapping) : (fuel : Nat) → (isFirst : Bool) → List (List Char) →
    List (List Char)
  | 0, _, _ => []
  | _, _, [] => []
  | fuel + 1, isFirst, chunk :: others =>
      let rest := if !isFirst && isBlankText chunk then others else chunk :: others
      let (line, size, rest) := fillLine wrapping.width [] 0 rest
      let (line, rest) := breakLong wrapping line size rest
      let line := match line with
        | last :: before => if isBlankText last then before else line
        | [] => []
      if line.isEmpty then fillLines wrapping fuel isFirst rest
      else line.reverse.flatten :: fillLines wrapping fuel false rest

/-- The lines of a wrapped text. -/
def wrapped (wrapping : Wrapping) (text : List Char) : List (List Char) :=
  fillLines wrapping (2 * text.length + 2) true (chunks wrapping.breaksHyphens text)

end ClientGen.Text
