import ClientGen.Failure
import ClientGen.Text.Charset.ChineseSheet
import ClientGen.Text.Charset.JapaneseSheet
import ClientGen.Text.Charset.KoreanSheet
import ClientGen.Text.Charset.PageTable
import ClientGen.Text.Charset.Shifted
import ClientGen.Text.Charset.TaiwaneseSheet
import ClientGen.Text.Utf8

/-!
# Charsets

The charsets that text can be written in, by their names. Letter case and the marks between the
letters and digits of a name do not matter. A lenient reading puts a replacement character for each
malformed part.
-/

namespace ClientGen.Text

/-- A charset. -/
inductive Charset where
  /-- One octet to four for each character, perhaps with a mark in front. -/
  | utf8 (isMarked : Bool)
  /-- Units of two octets; their order is marked in front if it is not fixed. -/
  | utf16 (order : Option Charset.OctetOrder)
  /-- Units of four octets; their order is marked in front if it is not fixed. -/
  | utf32 (order : Option Charset.OctetOrder)
  /-- Characters in seven bits. -/
  | utf7
  /-- One octet for each character. -/
  | page (page : Charset.Page)
  /-- One octet or two for each character. -/
  | paired (charset : Charset.Paired)
  /-- A name of something else, and the fault of using it for text. -/
  | other (fault : Fault)

namespace Charset

/-! ## Charsets with pairs -/

/-- The position of a pair in a region whose second octets leave out the last one of ASCII. -/
def regionIndex (first second width : Nat) : Nat :=
  first * width + (second - 0x40) - if 0x7f < second then 1 else 0

/-- The octets beyond ASCII that stand for narrow Japanese letters. -/
def narrowLetter (octet : Nat) : Option Char :=
  if 0xa1 ≤ octet && octet ≤ 0xdf then some (Char.ofNat (0xff61 + (octet - 0xa1))) else none

/-- A charset of pairs without single octets beyond ASCII. -/
def pairsOf (pair : Nat → Nat → Option Char) : Charset := .paired ⟨fun _ => none, pair⟩

/-- The standard Japanese pairs, with each octet of a pair counted from one place of a square. -/
def japaneseSquare (first second : Nat) : Option Char :=
  if first < 0xa1 || second < 0xa1 then none
  else
    let row := first - 0xa1
    let column := second - 0xa1
    let lead := if row / 2 < 31 then 0x81 + row / 2 else 0xc1 + row / 2
    let trail :=
      if row % 2 = 1 then column + 0x9f else if column < 63 then column + 0x40 else column + 0x41
    Paired.ofSheets [japanese] lead trail

/-- The Japanese pairs of a square, and narrow letters behind an octet of their own. -/
def japaneseSquareOrNarrow (first second : Nat) : Option Char :=
  if first = 0x8e then narrowLetter second else japaneseSquare first second

/-- The single octets of the extended Japanese charset. -/
def extendedNarrowLetter (octet : Nat) : Option Char :=
  match octet with
  | 0x80 => some '\x80'
  | 0xa0 => some '\uf8f0'
  | 0xfd => some '\uf8f1'
  | 0xfe => some '\uf8f2'
  | 0xff => some '\uf8f3'
  | octet => narrowLetter octet

/-- The extended Japanese pairs; some first octets are free for private use. -/
def japaneseExtendedPair (first second : Nat) : Option Char :=
  if 0xf0 ≤ first && first ≤ 0xf9 then
    if 0x40 ≤ second && second ≤ 0xfc && second ≠ 0x7f then
      some (Char.ofNat (0xe000 + regionIndex (first - 0xf0) second 188))
    else none
  else Paired.ofSheets [japaneseExtended, japanese] first second

/-- The pairs of the basic Chinese charset. -/
def chineseBasicPair (first second : Nat) : Option Char :=
  if first < 0xa1 || 0xf7 < first || second < 0xa1 then none
  else Paired.ofSheets [chineseBasic, chinese] first second

/-- The pairs of the full Chinese charset; three regions are free for private use. -/
def chineseFullPair (first second : Nat) : Option Char :=
  match Paired.ofSheets [chineseFull, chinese] first second with
  | some c => some c
  | none =>
      if 0xa1 ≤ second && second ≤ 0xfe then
        if 0xaa ≤ first && first ≤ 0xaf then
          some (Char.ofNat (0xe000 + (first - 0xaa) * 94 + (second - 0xa1)))
        else if 0xf8 ≤ first && first ≤ 0xfe then
          some (Char.ofNat (0xe234 + (first - 0xf8) * 94 + (second - 0xa1)))
        else none
      else if 0xa1 ≤ first && first ≤ 0xa7 && 0x40 ≤ second && second ≠ 0x7f then
        some (Char.ofNat (0xe4c6 + regionIndex (first - 0xa1) second 96))
      else none

/-- The pairs of the standard Korean charset. -/
def koreanBasicPair (first second : Nat) : Option Char :=
  if first < 0xa1 || second < 0xa1 then none
  else Paired.ofSheets [koreanBasic, korean] first second

/-- The charsets with pairs, by their names. -/
def pairedCharsets : List (String × Charset) :=
  [("shift_jis csshiftjis shiftjis sjis s_jis x_mac_japanese shift_jis_2004 shiftjis2004",
      .paired ⟨narrowLetter, Paired.ofSheets [japanese]⟩),
    ("sjis_2004 s_jis_2004 shift_jisx0213 shiftjisx0213 sjisx0213 s_jisx0213",
      .paired ⟨narrowLetter, Paired.ofSheets [japanese]⟩),
    ("cp932 932 ms932 mskanji ms_kanji", .paired ⟨extendedNarrowLetter, japaneseExtendedPair⟩),
    ("euc_jp eucjp ujis u_jis euc_jis_2004 jisx0213 eucjis2004 euc_jis2004 euc_jisx0213 eucjisx0213",
      pairsOf japaneseSquareOrNarrow),
    ("gbk 936 cp936 ms936", pairsOf (Paired.ofSheets [chinese])),
    ("gb2312 chinese csiso58gb231280 euc_cn euccn eucgb2312_cn gb2312_1980 gb2312_80 iso_ir_58",
      pairsOf chineseBasicPair),
    ("x_mac_simp_chinese", pairsOf chineseBasicPair),
    ("gb18030 gb18030_2000", pairsOf chineseFullPair),
    ("big5 big5_tw csbig5 x_mac_trad_chinese big5hkscs big5_hkscs hkscs",
      pairsOf (Paired.ofSheets [taiwanese])),
    ("cp950 950 ms950", pairsOf (Paired.ofSheets [taiwaneseExtended, taiwanese])),
    ("euc_kr euckr korean ksc5601 ks_c_5601 ks_c_5601_1987 ksx1001 ks_x_1001 x_mac_korean",
      pairsOf koreanBasicPair),
    ("cp949 949 ms949 uhc", pairsOf (Paired.ofSheets [korean]))]

/-! ## Other charsets -/

/-- The charsets of all characters, by their names. -/
def unicodeCharsets : List (String × Charset) :=
  [("utf_8 u8 utf utf8 utf8_ucs2 utf8_ucs4 cp65001", .utf8 false), ("utf_8_sig", .utf8 true),
    ("utf_16 u16 utf16", .utf16 none),
    ("utf_16_le unicodelittleunmarked utf_16le", .utf16 (some .little)),
    ("utf_16_be unicodebigunmarked utf_16be", .utf16 (some .big)),
    ("utf_32 u32 utf32", .utf32 none), ("utf_32_le utf_32le", .utf32 (some .little)),
    ("utf_32_be utf_32be", .utf32 (some .big)), ("utf_7 u7 utf7 unicode_1_1_utf_7", .utf7)]

/-- Charsets whose characters beyond ASCII are announced by control characters; without them there
is nothing but ASCII. -/
def announcedCharsets : List (String × Charset) :=
  [("hz hzgb hz_gb hz_gb_2312 iso2022_jp csiso2022jp iso2022jp iso_2022_jp iso2022_kr csiso2022kr",
      .page noHalf),
    ("iso2022kr iso_2022_kr iso2022_jp_1 iso2022jp_1 iso_2022_jp_1 iso2022_jp_2 iso2022jp_2",
      .page noHalf),
    ("iso_2022_jp_2 iso2022_jp_3 iso2022jp_3 iso_2022_jp_3 iso2022_jp_2004 iso_2022_jp_2004",
      .page noHalf),
    ("iso2022jp_2004 iso2022_jp_ext iso2022jp_ext iso_2022_jp_ext", .page noHalf)]

/-- Names that stand for other ways to write octets. -/
def otherCodings : List (String × Charset) :=
  [("base64_codec base64 base_64 hex_codec hex bz2_codec bz2 zlib_codec zip zlib uu_codec uu",
      .other .assertion),
    ("quopri_codec quopri quoted_printable quotedprintable", .other .assertion),
    ("rot_13 rot13", .other .badKind), ("idna undefined", .other .unmarked),
    ("punycode", .other .undecodable)]

/-! ## Names -/

/-- A name in small letters, with one underscore for each run of other characters between letters
and digits. -/
def normalName (name : List Char) : List Char :=
  join ['_'] ((runs (fun c => isAlphanumeric c || c == '.') name).map fun word =>
    word.map Char.toLower)

/-- The charset with a name in a list. -/
def findIn {α : Type} (table : List (String × α)) (name : List Char) : Option α :=
  (table.find? fun (names, _) => (splitOn ' ' names.toList).contains name).map (·.2)

/-- The charset with a name. -/
def ofName? (name : List Char) : Option Charset :=
  let name := replaceChar '.' ['_'] (normalName name)
  findIn unicodeCharsets name <|> (findIn pages name).map .page <|> findIn pairedCharsets name <|>
    findIn announcedCharsets name <|> findIn otherCodings name

/-! ## Decoding -/

/-- The text behind an order mark, when there is one. -/
def decodeMarked (size : Nat) (decode : OctetOrder → List UInt8 → List Char)
    (octets : List UInt8) : Except Fault (List Char) :=
  let mark := octets.take size
  if mark = OctetOrder.little.octets size 0xfeff then .ok (decode .little (octets.drop size))
  else if mark = OctetOrder.big.octets size 0xfeff then .ok (decode .big (octets.drop size))
  else if size ≤ octets.length then .error .unmarked
  else .ok (decode .little octets)

/-- The text of octets, with replacement characters for the malformed parts. -/
def decode (charset : Charset) (octets : List UInt8) : Except Fault (List Char) :=
  match charset with
  | .utf8 isMarked =>
      let text := Utf8.decodeLenient octets
      .ok (if isMarked && text.head? = some '\ufeff' then text.drop 1 else text)
  | .utf16 (some order) => .ok (decode16 order octets)
  | .utf16 none => decodeMarked 2 decode16 octets
  | .utf32 (some order) => .ok (decode32 order octets)
  | .utf32 none => decodeMarked 4 decode32 octets
  | .utf7 => .ok (decode7 none octets)
  | .page found => .ok (found.decode octets)
  | .paired found => .ok (found.decode octets)
  | .other fault => .error fault

end Charset

end ClientGen.Text
