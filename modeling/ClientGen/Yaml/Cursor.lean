import ClientGen.Failure

/-!
# Positions in a YAML text

The cursor knows the text that is left and where it stands. The end of the text reads as the null
character, which no accepted text contains.
-/

namespace ClientGen.Yaml

/-! ## Faults -/

/-- Why a YAML text has no value. -/
inductive YamlFault where
  /-- The text breaks a rule of the format. -/
  | malformed (rule : String)
  /-- The text follows the rules and names a value that does not exist. -/
  | impossible (fault : Fault)
  deriving DecidableEq, Repr

/-! ## Characters -/

/-- A line break. -/
def isBreak (c : Char) : Bool :=
  c == '\n' || c == '\r' || c == '\x85' || c == '\u2028' || c == '\u2029'

/-- The end of the text or of a line. -/
def isLineEnd (c : Char) : Bool := c == '\x00' || isBreak c

/-- The end of the text or of a line, or a space. -/
def isSpaceOrEnd (c : Char) : Bool := c == ' ' || isLineEnd c

/-- The end of the text or of a line, a space or a tab. -/
def isGap (c : Char) : Bool := c == '\t' || isSpaceOrEnd c

/-- A character of a name: a letter, a digit, a hyphen or an underscore. -/
def isNameChar (c : Char) : Bool := Text.isAlphanumeric c || c == '-' || c == '_'

/-- A character that a text may contain. -/
def isAllowed (c : Char) : Bool :=
  let code := c.toNat
  code == 0x09 || code == 0x0a || code == 0x0d || (0x20 ≤ code && code ≤ 0x7e) || code == 0x85 ||
    (0xa0 ≤ code && code ≤ 0xfffd) || 0x10000 ≤ code

/-! ## Cursors -/

/-- A place in a text. -/
structure Cursor where
  /-- The text from here on. -/
  rest : List Char
  /-- Characters from here on. -/
  left : Nat
  /-- Characters before this place. -/
  index : Nat
  /-- Lines before this place. -/
  line : Nat
  /-- Characters before this place on its line. -/
  column : Nat
  deriving Repr

namespace Cursor

/-- The beginning of a text. -/
def start (text : List Char) : Cursor := ⟨text, text.length, 0, 0, 0⟩

/-- The character here. -/
def peek (cursor : Cursor) : Char := cursor.rest.headD '\x00'

/-- The character some places further on. -/
def peekAt (cursor : Cursor) (distance : Nat) : Char := cursor.rest.getD distance '\x00'

/-- Whether a character ends its line, given the one after it. -/
def endsLine (c next : Char) : Bool := isBreak c && !(c == '\r' && next == '\n')

/-- The next place. A byte order mark has no width. -/
def next (cursor : Cursor) : Cursor :=
  match cursor.rest with
  | [] => cursor
  | c :: rest =>
      if endsLine c (rest.headD '\x00') then
        ⟨rest, cursor.left - 1, cursor.index + 1, cursor.line + 1, 0⟩
      else
        let width := if c = '\ufeff' then 0 else 1
        ⟨rest, cursor.left - 1, cursor.index + 1, cursor.line, cursor.column + width⟩

theorem left_start (text : List Char) : (start text).left = (start text).rest.length := rfl

theorem left_next {cursor : Cursor} (counted : cursor.left = cursor.rest.length) :
    cursor.next.left = cursor.next.rest.length := by
  unfold next
  split
  · exact counted
  · next c rest shown =>
      have size : cursor.left = rest.length + 1 := by rw [counted, shown, List.length_cons]
      split <;> simp [size]

/-- A place further on. -/
def skip (cursor : Cursor) : (distance : Nat) → Cursor
  | 0 => cursor
  | distance + 1 => skip cursor.next distance

/-- The characters from here on that satisfy a predicate, and the place after them. -/
def takeWhile (p : Char → Bool) (cursor : Cursor) : List Char × Cursor :=
  let run := cursor.rest.takeWhile p
  (run, cursor.skip run.length)

/-- The place after the characters that satisfy a predicate. -/
def skipWhile (p : Char → Bool) (cursor : Cursor) : Cursor := (cursor.takeWhile p).2

/-- The place after spaces. -/
def skipSpaces (cursor : Cursor) : Cursor := cursor.skipWhile (· == ' ')

/-- The place after a comment, if one starts here. -/
def skipComment (cursor : Cursor) : Cursor :=
  if cursor.peek == '#' then cursor.skipWhile fun c => !isBreak c else cursor

/-- The text that a line break stands for and the place after it; nothing elsewhere. -/
def lineBreak (cursor : Cursor) : List Char × Cursor :=
  match cursor.rest with
  | '\r' :: '\n' :: _ => (['\n'], cursor.skip 2)
  | c :: _ =>
      if c = '\u2028' ∨ c = '\u2029' then ([c], cursor.next)
      else if isBreak c then (['\n'], cursor.next)
      else ([], cursor)
  | [] => ([], cursor)

/-- Whether three equal characters and a gap start a line here. -/
def atMarker (mark : Char) (cursor : Cursor) : Bool :=
  cursor.peek == mark && cursor.peekAt 1 == mark && cursor.peekAt 2 == mark &&
    isGap (cursor.peekAt 3)

/-- Whether a document marker stands here, whatever the column. -/
def atDocumentMarker (cursor : Cursor) : Bool := cursor.atMarker '-' || cursor.atMarker '.'

end Cursor

end ClientGen.Yaml
