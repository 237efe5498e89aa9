import ClientGen.Template.Symbol

/-!
# Pieces of a template

A template source is divided into text and tags. White space next to a tag goes away as the tag
asks for it; by default a tag that stands alone on a line takes the whole line with it.
-/

namespace ClientGen.Template

/-- A piece of a template. -/
inductive Piece where
  /-- Text that stands for itself. -/
  | text (value : String)
  /-- A tag whose value is printed. -/
  | output (symbols : List Symbol)
  /-- A tag that makes up a statement. -/
  | tag (symbols : List Symbol)
  deriving DecidableEq, Repr

namespace Piece

/-! ## Delimiters -/

/-- What a delimiter does to the white space next to it. -/
inductive Trim where
  /-- What the kind of tag does by default. -/
  | standard
  /-- White space stays. -/
  | keep
  /-- All white space goes. -/
  | strip
  deriving DecidableEq, Repr

/-- The mark of white space control at the front of a text. -/
def cutTrim : List Char → Trim × List Char
  | '-' :: rest => (.strip, rest)
  | '+' :: rest => (.keep, rest)
  | rest => (.standard, rest)

/-- The kinds of things that a delimiter opens. -/
inductive Opening where
  /-- Text that is not read any further. -/
  | raw
  /-- A comment. -/
  | comment
  /-- A statement. -/
  | statement
  /-- A value. -/
  | value
  deriving DecidableEq, Repr

/-- Drop white space, and say whether what went ended with a line. -/
def dropBlank (text : List Char) : List Char × Bool :=
  (text.dropWhile Text.isBlank, (text.takeWhile Text.isBlank).getLast? == some '\n')

/-- Drop a line feed, and say whether there was one. -/
def dropLineFeed : List Char → List Char × Bool
  | '\n' :: rest => (rest, true)
  | rest => (rest, false)

/-- The closing delimiter of a statement or a comment, whose last two characters are given. -/
def closed? (first second : Char) : List Char → Option (List Char × Bool)
  | '+' :: c :: d :: rest => if c = first ∧ d = second then some (rest, false) else none
  | '-' :: c :: d :: rest => if c = first ∧ d = second then some (dropBlank rest) else none
  | c :: d :: rest => if c = first ∧ d = second then some (dropLineFeed rest) else none
  | _ => none

/-- The closing delimiter of a value, which leaves a line feed after it in place. -/
def valueClosed? : List Char → Option (List Char × Bool)
  | '-' :: '}' :: '}' :: rest => some (dropBlank rest)
  | '}' :: '}' :: rest => some (rest, false)
  | _ => none

/-- The rest of the tag that begins raw text, after its opening delimiter. -/
def rawOpened? (text : List Char) : Option (List Char × Bool) := do
  let rest ← Text.dropLeading? "raw".toList (text.dropWhile Text.isBlank)
  match rest.dropWhile Text.isBlank with
  | '-' :: '%' :: '}' :: rest => some (dropBlank rest)
  | '%' :: '}' :: rest => some (rest, false)
  | _ => none

/-- The rest of the tag that ends raw text, and what it does to the text in front of it. -/
def rawClosed? : List Char → Option (Trim × List Char × Bool)
  | '{' :: '%' :: rest => do
      let (trim, rest) := cutTrim rest
      let rest ← Text.dropLeading? "endraw".toList (rest.dropWhile Text.isBlank)
      let (rest, lineEnded) ← closed? '%' '}' (rest.dropWhile Text.isBlank)
      some (trim, rest, lineEnded)
  | _ => none

/-- The opening delimiter at the front of a text. -/
def opening? : List Char → Option (Opening × Trim × List Char × Bool)
  | '{' :: '%' :: rest =>
      let (trim, inner) := cutTrim rest
      match rawOpened? inner with
      | some (rest, lineEnded) => some (.raw, trim, rest, lineEnded)
      | none => some (.statement, trim, inner, false)
  | '{' :: '#' :: rest =>
      let (trim, inner) := cutTrim rest
      some (.comment, trim, inner, false)
  | '{' :: '{' :: rest =>
      let (trim, inner) := cutTrim rest
      some (.value, trim, inner, false)
  | _ => none

/-- The text in front of the first place where something is found, and what is found there. -/
def cutWhere {α : Type} (found? : List Char → Option α) : List Char → List Char × Option α
  | [] => ([], found? [])
  | c :: rest =>
      match found? (c :: rest) with
      | some found => ([], some found)
      | none =>
          let (before, found) := cutWhere found? rest
          (c :: before, found)

/-! ## White space in front of a tag -/

/-- Text without the white space on its last line, when nothing else is on that line. A text
without a line feed is a line of its own only if it starts one. -/
def dropIndent (atLineStart : Bool) (text : List Char) : List Char :=
  let last := Text.afterLast '\n' text
  let before := text.take (text.length - last.length)
  if last.all Text.isBlank && (!before.isEmpty || atLineStart) then before else text

/-- Text as it is left in front of a tag. -/
def trimBefore (atLineStart isValue : Bool) (trim : Trim) (text : List Char) : List Char :=
  match trim with
  | .strip => Text.trimEndWhile Text.isBlank text
  | .keep => text
  | .standard => if isValue then text else dropIndent atLineStart text

/-- A piece of text, unless it is empty. -/
def ofText (text : List Char) : List Piece :=
  if text.isEmpty then [] else [.text (String.ofList text)]

/-! ## Dividing a source -/

/-- The pieces of a text, which may start a line. -/
def divide : (fuel : Nat) → (atLineStart : Bool) → List Char → Result (List Piece)
  | 0, _, _ => .error "the template is too long"
  | fuel + 1, atLineStart, source => do
      match cutWhere opening? source with
      | (before, none) => .ok (ofText before)
      | (before, some (opening, trim, rest, lineEnded)) =>
          let lead := ofText (trimBefore atLineStart (opening = .value) trim before)
          match opening with
          | .comment =>
              match cutWhere (closed? '#' '}') rest with
              | (_, some (rest, lineEnded)) => .ok (lead ++ (← divide fuel lineEnded rest))
              | (_, none) => .error "a comment is not closed"
          | .raw =>
              match cutWhere rawClosed? rest with
              | (inner, some (trim, rest, ended)) =>
                  let shown := ofText (trimBefore lineEnded false trim inner)
                  .ok (lead ++ shown ++ (← divide fuel ended rest))
              | (_, none) => .error "raw text is not closed"
          | .statement =>
              let (symbols, rest, lineEnded) ←
                Symbol.untilEnd (closed? '%' '}') (rest.length + 1) [] false rest
              .ok (lead ++ .tag symbols :: (← divide fuel lineEnded rest))
          | .value =>
              let (symbols, rest, lineEnded) ←
                Symbol.untilEnd valueClosed? (rest.length + 1) [] false rest
              .ok (lead ++ .output symbols :: (← divide fuel lineEnded rest))

/-- The pieces of a source. -/
def ofSource (source : List Char) : Result (List Piece) :=
  let text := Text.unifyLineEnds source
  divide (text.length + 1) true text

end Piece

end ClientGen.Template
