import ClientGen.Yaml.Token

/-!
# The token stream of a YAML text

A text is divided into tokens from left to right. Indentation opens and closes block collections.
A key without its own indicator is known as a key only when its colon is met, so the place of
everything that may be such a key is remembered, and the key token is put there afterwards.
-/

namespace ClientGen.Yaml

/-- The place of a token that is a key if a colon follows it. -/
structure PossibleKey where
  /-- The nesting of flow collections at the token. -/
  flowLevel : Nat
  /-- The number of tokens before it. -/
  position : Nat
  /-- Whether a colon has to follow. -/
  required : Bool
  /-- Where the token starts. -/
  place : Cursor

/-- The state between two tokens. -/
structure Scanner where
  /-- The place in the text. -/
  cursor : Cursor
  /-- The nesting of flow collections. -/
  flowLevel : Nat
  /-- The column of the innermost block collection, or minus one. -/
  indent : Int
  /-- The columns of the block collections around it. -/
  outerIndents : List Int
  /-- Whether a key without an indicator may start here. -/
  allowsKey : Bool
  /-- What may still become a key, innermost first. -/
  possibleKeys : List PossibleKey
  /-- The tokens so far, latest first. -/
  tokens : List Token
  /-- The number of tokens so far. -/
  count : Nat

/-- A step of a scanner. -/
abbrev Step := Scanner → Except YamlFault Scanner

namespace Scanner

/-- The state at the beginning of a text. -/
def start (text : List Char) : Scanner := ⟨.start text, 0, -1, [], true, [], [], 0⟩

/-- Whether the place is inside brackets or braces. -/
def inFlow (s : Scanner) : Bool := s.flowLevel != 0

/-- Add a token at the end. -/
def emit (token : Token) (s : Scanner) : Scanner :=
  { s with tokens := token :: s.tokens, count := s.count + 1 }

/-- Add a token before the tokens from a position on. -/
def emitAt (position : Nat) (token : Token) (s : Scanner) : Scanner :=
  { s with tokens := s.tokens.insertIdx (s.count - position) token, count := s.count + 1 }

/-- Say whether a key may start next. -/
def allowing (allowed : Bool) (s : Scanner) : Scanner := { s with allowsKey := allowed }

/-- Move on by some characters. -/
def advance (distance : Nat) (s : Scanner) : Scanner := { s with cursor := s.cursor.skip distance }

/-! ## Indentation -/

/-- Close the block collections that are indented deeper than a column. -/
def closeBlocks (column : Int) : (outer : List Int) → Scanner → Scanner
  | [], s => s
  | previous :: outer, s =>
      if s.indent > column then
        closeBlocks column outer
          { s.emit .blockEnd with indent := previous, outerIndents := outer }
      else s

/-- Close the block collections that end before a column; brackets suspend indentation. -/
def unwind (column : Int) (s : Scanner) : Scanner :=
  if s.inFlow then s else closeBlocks column s.outerIndents s

/-- Whether a column opens a block collection, and the state in which it is open. -/
def indentTo (column : Int) (s : Scanner) : Bool × Scanner :=
  if s.indent < column then
    (true, { s with indent := column, outerIndents := s.indent :: s.outerIndents })
  else (false, s)

/-- Open a block collection at a column unless one is open there. -/
def openBlock (opening : Token) (column : Int) (s : Scanner) : Scanner :=
  match s.indentTo column with
  | (true, s) => s.emit opening
  | (false, s) => s

/-! ## Keys without an indicator -/

/-- Longest distance between the start of a key and its colon. -/
def longestKey : Nat := 1024

/-- Whether a colon may still follow a possible key. -/
def isFresh (place : Cursor) (key : PossibleKey) : Bool :=
  key.place.line = place.line && place.index - key.place.index ≤ longestKey

/-- Forget the possible keys that a colon can no longer follow. -/
def dropStaleKeys : Step := fun s =>
  let (fresh, stale) := s.possibleKeys.partition (isFresh s.cursor)
  if stale.any (·.required) then refuse "a colon is expected after a key"
  else .ok { s with possibleKeys := fresh }

/-- The possible key of the present flow level, and the others. -/
def takeKey (s : Scanner) : Option PossibleKey × List PossibleKey :=
  (s.possibleKeys.find? (·.flowLevel = s.flowLevel),
    s.possibleKeys.filter (·.flowLevel ≠ s.flowLevel))

/-- Forget the possible key of the present flow level. -/
def dropKey : Step := fun s =>
  match s.takeKey with
  | (none, _) => .ok s
  | (some key, others) =>
      if key.required then refuse "a colon is expected after a key"
      else .ok { s with possibleKeys := others }

/-- Remember that the next token may be a key. -/
def noteKey : Step := fun s => do
  if s.allowsKey then
    let s ← s.dropKey
    let required := !s.inFlow && s.indent == s.cursor.column
    let key := ⟨s.flowLevel, s.count, required, s.cursor⟩
    .ok { s with possibleKeys := key :: s.possibleKeys }
  else .ok s

/-! ## Between tokens -/

/-- Skip spaces, comments and line breaks; in block context a key may start on a new line. -/
def skipBlank : (fuel : Nat) → Scanner → Scanner
  | 0, s => s
  | fuel + 1, s =>
      let (lineBreak, after) := s.cursor.skipSpaces.skipComment.lineBreak
      let s := { s with cursor := after }
      if lineBreak.isEmpty then s else skipBlank fuel (s.allowing (s.allowsKey || !s.inFlow))

/-- Go to the next token, over a byte order mark at the very beginning. -/
def toNextToken (s : Scanner) : Scanner :=
  let s := if s.cursor.index = 0 && s.cursor.peek == '\ufeff' then s.advance 1 else s
  skipBlank (s.cursor.left + 1) s

/-! ## Tokens by kind -/

/-- A token that may be a key, from its scanner. -/
def keyLike (scan : Scan Token) : Step := fun s => do
  let s ← s.noteKey
  let (token, after) ← scan s.cursor
  .ok (({ s with cursor := after }.allowing false).emit token)

/-- A directive. -/
def directive : Step := fun s => do
  let s ← (s.unwind (-1)).dropKey
  let (token, after) ← scanDirective s.cursor
  .ok (({ s with cursor := after }.allowing false).emit token)

/-- A document marker. -/
def documentMarker (token : Token) : Step := fun s => do
  let s ← (s.unwind (-1)).dropKey
  .ok (((s.allowing false).advance 3).emit token)

/-- An opening bracket or brace, which may start a key. -/
def flowStart (token : Token) : Step := fun s => do
  let s ← s.noteKey
  .ok ((({ s with flowLevel := s.flowLevel + 1 }.allowing true).advance 1).emit token)

/-- A closing bracket or brace. -/
def flowEnd (token : Token) : Step := fun s => do
  let s ← s.dropKey
  .ok ((({ s with flowLevel := s.flowLevel - 1 }.allowing false).advance 1).emit token)

/-- A comma in a flow collection. -/
def flowEntry : Step := fun s => do
  let s ← s.dropKey
  .ok (((s.allowing true).advance 1).emit .flowEntry)

/-- Open the block collection of an indicator, where an indicator may stand. -/
def openIndicated (opening : Token) : Step := fun s =>
  if s.inFlow then .ok s
  else if s.allowsKey then .ok (s.openBlock opening s.cursor.column)
  else refuse "an indicator cannot stand here"

/-- The hyphen of a block sequence. -/
def blockEntry : Step := fun s => do
  let s ← s.openIndicated .blockSequenceStart
  let s ← (s.allowing true).dropKey
  .ok ((s.advance 1).emit .blockEntry)

/-- The indicator of a key. -/
def explicitKey : Step := fun s => do
  let s ← s.openIndicated .blockMappingStart
  let s ← (s.allowing !s.inFlow).dropKey
  .ok ((s.advance 1).emit .key)

/-- The colon of a possible key: the key token goes in front of the key, and in block context the
start of a mapping goes in front of that. -/
def valueOfKey (key : PossibleKey) (others : List PossibleKey) (s : Scanner) : Scanner :=
  let s := { s with possibleKeys := others }.emitAt key.position .key
  let s :=
    if s.inFlow then s
    else match s.indentTo key.place.column with
      | (true, s) => s.emitAt key.position .blockMappingStart
      | (false, s) => s
  s.allowing false

/-- The colon before a value. -/
def value : Step := fun s => do
  let s ←
    match s.takeKey with
    | (some key, others) => .ok (s.valueOfKey key others)
    | (none, _) => do
        let s ← s.openIndicated .blockMappingStart
        (s.allowing !s.inFlow).dropKey
  .ok ((s.advance 1).emit .value)

/-- A block scalar. -/
def blockScalar : Step := fun s => do
  let s ← (s.allowing true).dropKey
  let (token, after) ← scanBlockScalar s.indent s.cursor
  .ok ({ s with cursor := after }.emit token)

/-- A plain scalar; a key may start on the next line. -/
def plainScalar : Step := fun s => do
  let s ← s.noteKey
  let (token, lineEnded, after) := scanPlain s.inFlow s.indent s.cursor
  .ok (({ s with cursor := after }.allowing lineEnded).emit token)

/-- The end of the text. -/
def streamEnd : Step := fun s => do
  let s ← (s.unwind (-1)).dropKey
  .ok (s.emit .streamEnd)

/-! ## The next token -/

/-- Characters that start something other than a plain scalar. -/
def isIndicator (c : Char) : Bool :=
  isFlowMark c || "-?:#&*!|>'\"%@".toList.contains c || c.toNat == 0x60

/-- Whether a plain scalar may start with a character before another one. -/
def startsPlain (flow : Bool) (c next : Char) : Bool :=
  !(isGap c || isIndicator c) || (!isGap next && (c == '-' || (!flow && (c == '?' || c == ':'))))

/-- The step for the token that starts here, if it is not the end of the text. -/
def stepAt (s : Scanner) : Step :=
  let c := s.cursor.peek
  let next := s.cursor.peekAt 1
  let atLineStart := s.cursor.column = 0
  let indicated := s.inFlow || isGap next
  if c == '%' && atLineStart then directive
  else if atLineStart && s.cursor.atMarker '-' then documentMarker .documentStart
  else if atLineStart && s.cursor.atMarker '.' then documentMarker .documentEnd
  else if c == '[' then flowStart .flowSequenceStart
  else if c == '{' then flowStart .flowMappingStart
  else if c == ']' then flowEnd .flowSequenceEnd
  else if c == '}' then flowEnd .flowMappingEnd
  else if c == ',' then flowEntry
  else if c == '-' && isGap next then blockEntry
  else if c == '?' && indicated then explicitKey
  else if c == ':' && indicated then value
  else if c == '*' then keyLike (scanNamed .alias)
  else if c == '&' then keyLike (scanNamed .anchor)
  else if c == '!' then keyLike scanTag
  else if (c == '|' || c == '>') && !s.inFlow then blockScalar
  else if c == '\'' || c == '"' then keyLike scanQuoted
  else if startsPlain s.inFlow c next then plainScalar
  else fun _ => refuse "no token starts with this character"

/-- The tokens from a state on, latest first. -/
def run : (fuel : Nat) → Scanner → List Token
  | 0, s => s.tokens
  | fuel + 1, s =>
      let s := s.toNextToken
      match s.dropStaleKeys with
      | .error fault => .broken fault :: s.tokens
      | .ok s =>
          let s := s.unwind s.cursor.column
          if s.cursor.rest.isEmpty then
            match s.streamEnd with
            | .error fault => .broken fault :: s.tokens
            | .ok s => s.tokens
          else
            match s.stepAt s with
            | .error fault => .broken fault :: s.tokens
            | .ok s => run fuel s

end Scanner

/-- The tokens of a text. The last one is the end of the text, or says why there is none. -/
def tokens (text : List Char) : List Token :=
  if text.all isAllowed then ((Scanner.start text).run (text.length + 1)).reverse
  else [.broken (.malformed "the text has a character that is not allowed")]

end ClientGen.Yaml
