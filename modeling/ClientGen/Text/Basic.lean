/-!
# Cutting and joining text

Texts are handled as lists of characters. This file holds the cutting operations that the rest of
the library is built from: splitting at a separator, collecting runs, replacing, trimming.
-/

namespace ClientGen.Text

/-! ## Character classes -/

/-- An ASCII lower-case letter. -/
def isLower (c : Char) : Bool := 'a' ≤ c && c ≤ 'z'

/-- An ASCII capital. -/
def isUpper (c : Char) : Bool := 'A' ≤ c && c ≤ 'Z'

/-- An ASCII decimal digit. -/
def isDigit (c : Char) : Bool := '0' ≤ c && c ≤ '9'

/-- An ASCII letter. -/
def isLetter (c : Char) : Bool := isLower c || isUpper c

/-- An ASCII letter or digit. -/
def isAlphanumeric (c : Char) : Bool := isLetter c || isDigit c

/-- A hexadecimal digit in either case. -/
def isHexDigit (c : Char) : Bool :=
  isDigit c || ('a' ≤ c && c ≤ 'f') || ('A' ≤ c && c ≤ 'F')

/-- The value of a digit of a base up to thirty-six, letters in either case. -/
def digitValue (c : Char) : Option Nat :=
  if isDigit c then some (c.toNat - 0x30)
  else if isLower c then some (c.toNat - 0x57)
  else if isUpper c then some (c.toNat - 0x37)
  else none

/-- The character of a digit below sixteen, letters in lower case. -/
def digitChar (digit : Nat) : Char :=
  Char.ofNat (if digit < 10 then 0x30 + digit else 0x57 + digit)

/-- The decimal digits of a natural number. -/
def decimal (n : Nat) : List Char := Nat.toDigits 10 n

/-- The hexadecimal digits of a number in lower case, filled with zeros to a width. -/
def hex (width n : Nat) : List Char :=
  let digits := Nat.toDigits 16 n
  List.replicate (width - digits.length) '0' ++ digits

/-- The code of a character behind a backslash. -/
def charCode (c : Char) : List Char :=
  let code := c.toNat
  if code < 0x100 then '\\' :: 'x' :: hex 2 code
  else if code < 0x10000 then '\\' :: 'u' :: hex 4 code
  else '\\' :: 'U' :: hex 8 code

/-- The decimal digits of a number, filled with zeros to a width. -/
def decimalPadded (width n : Nat) : String :=
  let digits := decimal n
  String.ofList (List.replicate (width - digits.length) '0' ++ digits)

/-! ## Splitting -/

/-- The pieces between the occurrences of a separator; there is always at least one. -/
def splitOn (separator : Char) : List Char → List (List Char)
  | [] => [[]]
  | c :: rest =>
      if c = separator then [] :: splitOn separator rest
      else match splitOn separator rest with
        | [] => [[c]]
        | piece :: pieces => (c :: piece) :: pieces

/-- The maximal runs of characters that satisfy a predicate. -/
def runs (p : Char → Bool) : List Char → List (List Char)
  | [] => []
  | c :: rest =>
      if p c then
        match rest with
        | [] => [[c]]
        | d :: _ =>
            if p d then
              match runs p rest with
              | [] => [[c]]
              | word :: words => (c :: word) :: words
            else [c] :: runs p rest
      else runs p rest

/-- Cut at the first occurrence of a character, which belongs to neither part. -/
def cutAt? (separator : Char) : List Char → Option (List Char × List Char)
  | [] => none
  | c :: rest =>
      if c = separator then some ([], rest)
      else (cutAt? separator rest).map fun (before, after) => (c :: before, after)

/-- The part after the last occurrence of a character, or all of a text without one. -/
def afterLast (separator : Char) (text : List Char) : List Char :=
  (splitOn separator text).getLast?.getD text

/-- The pieces joined with a separator between neighbours. -/
def join (separator : List Char) : List (List Char) → List Char
  | [] => []
  | [piece] => piece
  | piece :: next :: pieces => piece ++ separator ++ join separator (next :: pieces)

/-- Drop a leading occurrence of a text. -/
def dropLeading? : (lead : List Char) → List Char → Option (List Char)
  | [], text => some text
  | _ :: _, [] => none
  | c :: lead, d :: text => if c = d then dropLeading? lead text else none

/-- Whether a text begins with another one. -/
def startsWith (lead text : List Char) : Bool := (dropLeading? lead text).isSome

/-- Whether a text contains another one. -/
def contains (part : List Char) : List Char → Bool
  | [] => part.isEmpty
  | c :: rest => startsWith part (c :: rest) || contains part rest

/-! ## Replacing -/

/-- Replace one character by a text. -/
def replaceChar (c : Char) (by_ : List Char) (text : List Char) : List Char :=
  text.flatMap fun d => if d = c then by_ else [d]

/-- Replace two adjacent characters by one, from left to right. -/
def replacePair (first second by_ : Char) : List Char → List Char
  | c :: d :: rest =>
      if c = first ∧ d = second then by_ :: replacePair first second by_ rest
      else c :: replacePair first second by_ (d :: rest)
  | text => text

/-- The scan behind `replaceAll`: `skipped` characters of the current occurrence are left. -/
def replaceFrom (part by_ : List Char) : (skipped : Nat) → List Char → List Char
  | _, [] => []
  | skipped + 1, _ :: rest => replaceFrom part by_ skipped rest
  | 0, c :: rest =>
      if startsWith part (c :: rest) then by_ ++ replaceFrom part by_ (part.length - 1) rest
      else c :: replaceFrom part by_ 0 rest

/-- Replace every occurrence of a non-empty text, from left to right and without overlap. -/
def replaceAll (part by_ text : List Char) : List Char := replaceFrom part by_ 0 text

/-! ## Trimming and lines -/

/-- Drop the characters at the end that satisfy a predicate. -/
def trimEndWhile (p : Char → Bool) (text : List Char) : List Char :=
  (text.reverse.dropWhile p).reverse

/-- Drop the characters at both ends that satisfy a predicate. -/
def trimWhile (p : Char → Bool) (text : List Char) : List Char :=
  trimEndWhile p (text.dropWhile p)

/-- Turn every carriage return, alone or before a line feed, into a line feed. -/
def unifyLineEnds : List Char → List Char
  | '\r' :: '\n' :: rest => '\n' :: unifyLineEnds rest
  | '\r' :: rest => '\n' :: unifyLineEnds rest
  | c :: rest => c :: unifyLineEnds rest
  | [] => []

/-- Join texts with a separator between neighbours. -/
def joinStrings (separator : String) (pieces : List String) : String :=
  String.intercalate separator pieces

/-!
## Blank characters

The white space of Unicode together with the four separator controls. Trimming and word splitting
use this one class.
-/

/-- White space: the Unicode property, and the information separators. -/
def isBlank (c : Char) : Bool :=
  let code := c.toNat
  (0x09 ≤ code && code ≤ 0x0d) || (0x1c ≤ code && code ≤ 0x20) || code == 0x85 || code == 0xa0 ||
    code == 0x1680 || (0x2000 ≤ code && code ≤ 0x200a) || code == 0x2028 || code == 0x2029 ||
    code == 0x202f || code == 0x205f || code == 0x3000

/-- Whether a text has no other than blank characters. -/
def isBlankText (text : List Char) : Bool := text.all isBlank

/-- Drop the blank characters at both ends. -/
def trim (text : List Char) : List Char := trimWhile isBlank text

/-- The maximal runs of characters that are not blank. -/
def words (text : List Char) : List (List Char) := runs (fun c => !isBlank c) text

/-- The words of a text with one space between neighbours. -/
def singleSpaced (text : String) : String :=
  joinStrings " " ((words text.toList).map String.ofList)

theorem isBlank_of_isWhitespace {c : Char} (white : c.isWhitespace = true) : isBlank c = true := by
  simp only [Char.isWhitespace, Bool.or_eq_true, decide_eq_true_eq] at white
  rcases white with ((rfl | rfl) | rfl) | rfl <;> rfl

end ClientGen.Text
