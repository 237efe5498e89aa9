import ClientGen.Text.LetterName
import ClientGen.Text.PictureName
import ClientGen.Text.Search
import ClientGen.Text.SymbolName

/-!
# Characters by name

Every assigned character has a name. The tables list the names of characters that follow one
another: a line starts with the first code point, and semicolons stand between the names. Control
characters have no name but one or more aliases; an ideograph is named by its code point.
-/

namespace ClientGen.Text

/-- The names of characters, in the order of their code points. -/
def characterNames : List (List String) :=
  [letterNamesA, letterNamesB, letterNamesC, letterNamesD, letterNamesE, letterNamesF,
    letterNamesG, symbolNamesA, symbolNamesB, symbolNamesC, symbolNamesD, symbolNamesE,
    symbolNamesF, pictureNamesA, pictureNamesB, pictureNamesC, pictureNamesD]

/-- Further names, with an underscore for each space, a colon and the code point. -/
def characterAliases : List String :=
  ["NULL:0 NUL:0 START_OF_HEADING:1 SOH:1 START_OF_TEXT:2 STX:2 END_OF_TEXT:3 ETX:3",
    "END_OF_TRANSMISSION:4 EOT:4 ENQUIRY:5 ENQ:5 ACKNOWLEDGE:6 ACK:6 ALERT:7 BEL:7 BACKSPACE:8",
    "BS:8 CHARACTER_TABULATION:9 HORIZONTAL_TABULATION:9 HT:9 TAB:9 LINE_FEED:a NEW_LINE:a",
    "END_OF_LINE:a LF:a NL:a EOL:a LINE_TABULATION:b VERTICAL_TABULATION:b VT:b FORM_FEED:c FF:c",
    "CARRIAGE_RETURN:d CR:d SHIFT_OUT:e LOCKING-SHIFT_ONE:e SO:e SHIFT_IN:f LOCKING-SHIFT_ZERO:f",
    "SI:f DATA_LINK_ESCAPE:10 DLE:10 DEVICE_CONTROL_ONE:11 DC1:11 DEVICE_CONTROL_TWO:12 DC2:12",
    "DEVICE_CONTROL_THREE:13 DC3:13 DEVICE_CONTROL_FOUR:14 DC4:14 NEGATIVE_ACKNOWLEDGE:15 NAK:15",
    "SYNCHRONOUS_IDLE:16 SYN:16 END_OF_TRANSMISSION_BLOCK:17 ETB:17 CANCEL:18 CAN:18",
    "END_OF_MEDIUM:19 EOM:19 SUBSTITUTE:1a SUB:1a ESCAPE:1b ESC:1b INFORMATION_SEPARATOR_FOUR:1c",
    "FILE_SEPARATOR:1c FS:1c INFORMATION_SEPARATOR_THREE:1d GROUP_SEPARATOR:1d GS:1d",
    "INFORMATION_SEPARATOR_TWO:1e RECORD_SEPARATOR:1e RS:1e INFORMATION_SEPARATOR_ONE:1f",
    "UNIT_SEPARATOR:1f US:1f SP:20 DELETE:7f DEL:7f PADDING_CHARACTER:80 PAD:80",
    "HIGH_OCTET_PRESET:81 HOP:81 BREAK_PERMITTED_HERE:82 BPH:82 NO_BREAK_HERE:83 NBH:83 INDEX:84",
    "IND:84 NEXT_LINE:85 NEL:85 START_OF_SELECTED_AREA:86 SSA:86 END_OF_SELECTED_AREA:87 ESA:87",
    "CHARACTER_TABULATION_SET:88 HORIZONTAL_TABULATION_SET:88 HTS:88",
    "CHARACTER_TABULATION_WITH_JUSTIFICATION:89 HORIZONTAL_TABULATION_WITH_JUSTIFICATION:89",
    "HTJ:89 LINE_TABULATION_SET:8a VERTICAL_TABULATION_SET:8a VTS:8a PARTIAL_LINE_FORWARD:8b",
    "PARTIAL_LINE_DOWN:8b PLD:8b PARTIAL_LINE_BACKWARD:8c PARTIAL_LINE_UP:8c PLU:8c",
    "REVERSE_LINE_FEED:8d REVERSE_INDEX:8d RI:8d SINGLE_SHIFT_TWO:8e SINGLE-SHIFT-2:8e SS2:8e",
    "SINGLE_SHIFT_THREE:8f SINGLE-SHIFT-3:8f SS3:8f DEVICE_CONTROL_STRING:90 DCS:90",
    "PRIVATE_USE_ONE:91 PRIVATE_USE-1:91 PU1:91 PRIVATE_USE_TWO:92 PRIVATE_USE-2:92 PU2:92",
    "SET_TRANSMIT_STATE:93 STS:93 CANCEL_CHARACTER:94 CCH:94 MESSAGE_WAITING:95 MW:95",
    "START_OF_GUARDED_AREA:96 START_OF_PROTECTED_AREA:96 SPA:96 END_OF_GUARDED_AREA:97",
    "END_OF_PROTECTED_AREA:97 EPA:97 START_OF_STRING:98 SOS:98",
    "SINGLE_GRAPHIC_CHARACTER_INTRODUCER:99 SGC:99 SINGLE_CHARACTER_INTRODUCER:9a SCI:9a",
    "CONTROL_SEQUENCE_INTRODUCER:9b CSI:9b STRING_TERMINATOR:9c ST:9c OPERATING_SYSTEM_COMMAND:9d",
    "OSC:9d PRIVACY_MESSAGE:9e PM:9e APPLICATION_PROGRAM_COMMAND:9f APC:9f NBSP:a0 SHY:ad CGJ:34f",
    "ZWSP:200b ZWNJ:200c ZWJ:200d LRM:200e RLM:200f LRE:202a RLE:202b PDF:202c LRO:202d RLO:202e",
    "NNBSP:202f MMSP:205f WJ:2060 LRI:2066 RLI:2067 FSI:2068 PDI:2069",
    "WEIERSTRASS_ELLIPTIC_FUNCTION:2118 BYTE_ORDER_MARK:feff BOM:feff ZWNBSP:feff",
    "LATIN_SMALL_LETTER_GHA:1a3 ALM:61c MICR_ON_US_SYMBOL:2448 MICR_DASH_SYMBOL:2449",
    "PRESENTATION_FORM_FOR_VERTICAL_RIGHT_WHITE_LENTICULAR_BRACKET:fe18"]

/-- The first and the last code point of each run of ideographs. -/
def ideographs : List (Nat × Nat) :=
  [(0x3400, 0x4dbf), (0x4e00, 0x9fff), (0x20000, 0x2a6df), (0x2a700, 0x2b738), (0x2b740, 0x2b81d),
    (0x2b820, 0x2cea1), (0x2ceb0, 0x2ebe0), (0x30000, 0x3134a)]

/-- A hexadecimal digit that is no small letter. -/
def isCapitalHexDigit (c : Char) : Bool := isDigit c || ('A' ≤ c && c ≤ 'F')

/-- The ideograph whose code point follows the words in front. -/
def ideograph? (name : List Char) : Option Char := do
  let digits ← dropLeading? "CJK UNIFIED IDEOGRAPH-".toList name
  if digits.all isCapitalHexDigit && (digits.length == 4 || digits.length == 5) then
    let code := hexNumber digits
    if ideographs.any fun (first, last) => first ≤ code && code ≤ last then
      some (Char.ofNat code)
    else none
  else none

/-- The place of a name among names with semicolons between them. -/
def placeAmong (name : List Char) : (place : Nat) → List (List Char) → Option Nat
  | _, [] => none
  | place, other :: rest =>
      if other = name then some place else placeAmong name (place + 1) rest

/-- The character that a name has in a line of a table. -/
def characterIn? (name : List Char) (line : String) : Option Char :=
  let line := line.toList
  let code := line.takeWhile (· != ' ')
  (placeAmong name 0 (splitOn ';' (line.drop (code.length + 1)))).map fun place =>
    Char.ofNat (hexNumber code + place)

/-- The character of a name, its letters in capitals or not. -/
def characterNamed? (name : List Char) : Option Char :=
  match ideograph? name with
  | some found => some found
  | none =>
      let capitals := name.map fun c => if 'a' ≤ c && c ≤ 'z' then Char.ofNat (c.toNat - 32) else c
      let spelled := capitals.map fun c => if c == ' ' then '_' else c
      let known := if name.contains '_' then none else named? characterAliases spelled
      (known.bind (·.head?)).orElse fun _ =>
        characterNames.findSome? fun table => table.findSome? (characterIn? capitals)

/-- The name that a line of a table gives to a code point. -/
def nameIn? (code : Nat) (line : String) : Option (List Char) :=
  let line := line.toList
  let digits := line.takeWhile (· != ' ')
  let first := hexNumber digits
  if code < first then none
  else (splitOn ';' (line.drop (digits.length + 1)))[code - first]?

/-- The name of a character; control characters have none. -/
def nameOf? (c : Char) : Option (List Char) :=
  let code := c.toNat
  if ideographs.any fun (first, last) => first ≤ code && code ≤ last then
    some ("CJK UNIFIED IDEOGRAPH-".toList ++ (hex 4 code).map Char.toUpper)
  else characterNames.findSome? fun table => table.findSome? (nameIn? code)

end ClientGen.Text
